import GaussMarkup.Proofs.Lexer.DirectiveStart
import GaussMarkup.Proofs.Lexer.PlainName

/-!
# Where a label is read

The rule for labels asks whether the cursor is at the start of a line, and it is
tried where the name begins. In front of it stand the rules for blanks, which
take the blanks of an indented line first, so behind them the cursor is not at
the start of the line any more. A name with a colon behind it is a label
where nothing stands in front of it in its line, and a plain name where a blank
does (`labels_begin_lines`). A rule that looked for the blanks as well would find
no other labels (`Cursor.match?_eq_indentedLabel`).
-/

namespace GaussMarkup

variable {p s t w : List Char} {ch : Char}

/-! ## Blanks in front of a label -/

/-- Blanks, a name and a single colon. -/
def findIndentedLabel? (before : Option Char) (s : List Char) : Option Match :=
  (cutName? (s.dropWhile isBlank)).bind fun name =>
    ((cutMark? [':'] name.2).filter fun colon =>
        (Guard.notFollowedBy ':').admits before (s.takeWhile isBlank ++ name.1 ++ colon.1)
          colon.2).map fun colon =>
      .plain (lexemeOf .whitespace (s.takeWhile isBlank) ++
        [⟨.label, name.1⟩, ⟨.punctuation, colon.1⟩]) colon.2 .stay

theorem covers_findIndentedLabel? {before : Option Char} {s : List Char} {m : Match}
    (h : findIndentedLabel? before s = some m) : m.Covers s := by
  obtain ⟨name, hn, h⟩ := Option.bind_eq_some_iff.mp h
  obtain ⟨colon, hc, rfl⟩ := Option.map_eq_some_iff.mp h
  refine Match.covers_plain ?_
  have hcolon := joins_cutMark? _ (Option.filter_eq_some_iff.mp hc).1
  simp [hcolon, joins_cutName? hn, List.takeWhile_append_dropWhile]

/-- A label at the start of its line, with the blanks in front of it. -/
def Rule.indentedLabel : Rule :=
  atLineStart
    { find? := findIndentedLabel?
      covers := covers_findIndentedLabel? }

theorem Rule.find?_indentedLabel {before : Option Char} {s : List Char}
    (hs : s.takeWhile isBlank = []) : indentedLabel.find? before s = label.find? before s := by
  have hdrop : s.dropWhile isBlank = s := by
    have hsplit := List.takeWhile_append_dropWhile (p := isBlank) (l := s)
    rwa [hs, List.nil_append] at hsplit
  have hfind : findIndentedLabel? before s = findLabel? before s := by
    rw [findIndentedLabel?, hs, hdrop]
    rfl
  show (if _ then findIndentedLabel? before s else none) = _
  rw [hfind]
  rfl

namespace Cursor

/-- It makes no difference whether the rule for labels takes the blanks in front of the
name as well: where there are any, the rules for directives or blanks come first. -/
theorem match?_eq_indentedLabel :
    ∃ front behind, Mode.root.rules = front ++ .label :: behind ∧
      ∀ c : Cursor, c.mode = .root →
        c.match? = c.firstMatch? (front ++ .indentedLabel :: behind) := by
  refine ⟨Mode.root.rules.take 29, Mode.root.rules.drop 30, rfl, fun c hmode => ?_⟩
  rw [match?_eq_firstMatch?, hmode]
  by_cases hblanks : c.rest.takeWhile isBlank = []
  · calc c.firstMatch? Mode.root.rules
      _ = c.firstMatch? (Mode.root.rules.take 29 ++ .label :: Mode.root.rules.drop 30) := rfl
      _ = _ := by
        simp only [firstMatch?, List.findSome?_append, List.findSome?_cons,
          Rule.find?_indentedLabel hblanks]
  · have hfind : Rule.blanks.find? c.before c.rest =
        some (.plain (lexemeOf .text (c.rest.takeWhile isBlank)) (c.rest.dropWhile isBlank)
          .stay) := by
      show (cutRun? isBlank c.rest).map _ = _
      rw [cutRun?_eq_some.mpr ⟨hblanks, rfl⟩]
      rfl
    have hadvances := advancesBy_of_text_ne_nil (c := c)
      (m := .plain (lexemeOf .text (c.rest.takeWhile isBlank)) (c.rest.dropWhile isBlank) .stay)
      (by simpa using hblanks)
    have hfront : ∀ rules, c.firstMatch? (Mode.root.rules.take 4 ++ rules) =
        c.firstMatch? (Mode.root.rules.take 4) :=
      firstMatch?_append_of_mem (by simp [Mode.rules]) hfind hadvances
    exact (hfront (Mode.root.rules.drop 4)).trans (hfront
      ((Mode.root.rules.take 29).drop 4 ++ .indentedLabel :: Mode.root.rules.drop 30)).symm

end Cursor

/-! ## Blanks in front of code -/

/-- Behind its blanks, a text with a directive goes on with the sign of the
directive or with the comment of its lead. -/
theorem Lead.opensLead_of_eq (hp : Lead p) (hw : Blanks w) (hch : isBlank ch = false)
    (h : p ++ '#' :: t = w ++ ch :: s) : opensLead ch = true := by
  have hdrop := congrArg (List.dropWhile isBlank) h
  rw [dropWhile_blanks hw hch] at hdrop
  cases hp with
  | blanks hp =>
      rw [dropWhile_blanks hp (by decide)] at hdrop
      obtain ⟨rfl, -⟩ := List.cons.inj hdrop
      rfl
  | @comment v q u hv hlead _ _ =>
      rcases hlead with hslash | hat
      · obtain ⟨r, rfl⟩ := hslash.opens
        have hv := dropWhile_blanks hv (show isBlank '/' = false by rfl) ('*' :: r ++ u ++ '#' :: t)
        simp only [List.append_assoc, List.cons_append, List.nil_append] at hdrop hv
        rw [hv] at hdrop
        obtain ⟨rfl, -⟩ := List.cons.inj hdrop
        rfl
      · obtain ⟨r, rfl⟩ := hat.opens
        have hv := dropWhile_blanks hv (show isBlank '@' = false by rfl) (r ++ u ++ '#' :: t)
        simp only [List.append_assoc, List.cons_append, List.nil_append] at hdrop hv
        rw [hv] at hdrop
        obtain ⟨rfl, -⟩ := List.cons.inj hdrop
        rfl

namespace Cursor

variable {c : Cursor}

/-- The cursor behind a text of which nothing changes the stack. -/
def past (c : Cursor) (taken rest : List Char) : Cursor :=
  ⟨c.lastTaken taken, c.stack, rest⟩

theorem lastTaken_nil (c : Cursor) : c.lastTaken [] = c.before := rfl

theorem past_past (c : Cursor) (u v r s : List Char) :
    (c.past u r).past v s = c.past (u ++ v) s := by
  simp only [past, lastTaken, List.getLast?_append, Option.or_assoc]

theorem step?_of_stay {ls : List Lexeme} {rest : List Char} (hrest : c.rest ≠ [])
    (hm : c.match? = some (.plain ls rest .stay)) :
    c.step? = some ⟨ls, c.past (textOf ls) rest⟩ := by
  rw [step?_of_plain hrest hm]
  simp [behind, past, Match.plain, Match.text, Move.apply]

/-- In front of blanks and code, the rules for directives find nothing. -/
theorem match?_of_blanks (hmode : c.mode = .root) (hw : Blanks (ch :: w)) {d : Char}
    (hd : opensLead d = false) (hrest : c.rest = ch :: w ++ d :: s) :
    c.match? = c.firstMatch? ((Mode.rootRulesOn ch).drop 2) := by
  have hch : opensLead ch = true := by simp [opensLead, hw ch (List.mem_cons_self ..)]
  rcases match?_of_opensLead hmode hrest hch with ⟨m, -, hfind⟩ | hm
  · obtain ⟨-, p, sign, t, mode, hs, hp, hsign, -, -⟩ := atLineStart_of_find? hfind
    obtain ⟨u, rfl⟩ := hsign.exists_cons
    have hblank : isBlank d = false := (Bool.or_eq_false_iff.mp hd).1
    have hopens := hp.opensLead_of_eq hw hblank (hs.symm.trans hrest)
    rw [hd] at hopens
    cases hopens
  · exact hm

/-- Blanks in front of code are plain text. -/
theorem exists_run_blanks (hmode : c.mode = .root) (hw : Blanks w) (hch : opensLead ch = false)
    (hrest : c.rest = w ++ ch :: s) :
    ∃ ws, c.Run ws (c.past w (ch :: s)) ∧ (∀ l ∈ ws, l.kind = .text) ∧ textOf ws = w := by
  induction w generalizing c with
  | nil =>
      refine ⟨[], ?_, by simp, rfl⟩
      rw [List.nil_append] at hrest
      rw [past, lastTaken_nil, ← hrest]
      exact .refl c
  | cons d w ih =>
      have hm := match?_of_blanks hmode hw hch hrest
      have hblank : isBlank ch = false := (Bool.or_eq_false_iff.mp hch).1
      by_cases hfeed : d = '\n'
      · -- A line feed is taken alone, and the other blanks from behind it.
        subst hfeed
        rw [firstMatch?_of_lineFeed hrest] at hm
        have hst := step?_of_stay (by simp [hrest]) hm
        obtain ⟨ws, hrun, hkinds, htext⟩ := ih (c := c.past ['\n'] (w ++ ch :: s)) hmode
          (fun e he => hw e (List.mem_cons_of_mem _ he)) rfl
        rw [past_past] at hrun
        exact ⟨⟨.text, ['\n']⟩ :: ws, .step hst hrun, by simpa using hkinds, by simp [htext]⟩
      · have hs : (ch :: s).dropWhile isBlank = ch :: s :=
          List.dropWhile_cons_of_neg (by simp [hblank])
        rw [firstMatch?_of_blanks hw hfeed hs hrest] at hm
        have hst := step?_of_stay (by simp [hrest]) hm
        refine ⟨[⟨.text, d :: w⟩], ?_, by simp, by simp⟩
        simpa using Run.single hst

/-! ## A name and a colon -/

variable {x : List Char}

/-- A colon that no rule has taken with a name is taken alone. -/
theorem step?_colon (hmode : c.mode = .root) (hrest : c.rest = ':' :: t) :
    c.step? = some ⟨[⟨.punctuation, [':']⟩], c.past [':'] t⟩ := by
  have hrules : Mode.rootRulesOn ':' = [.punctuation, .other] := rfl
  have hscan : cutOne? isPunctuation c.rest = some ([':'], t) := by
    rw [hrest]
    rfl
  have hm := match?_of_root hmode hrest
  rw [hrules, firstMatch?_of_scan _ rfl hscan (by simp)] at hm
  exact step?_of_stay (by simp [hrest]) hm

/-- A name on no list with a colon behind it: at the start of a line the rule for
labels takes both, and elsewhere the name is a plain one. -/
theorem exists_run_nameColon (hmode : c.mode = .root) (hx : isName x = true)
    (hreserved : isReserved x = false) (ht : t.head? ≠ some ':') (hrest : c.rest = x ++ ':' :: t) :
    c.Run [⟨if atLineStart c.before then .label else .name, x⟩, ⟨.punctuation, [':']⟩]
      (c.past (x ++ [':']) t) := by
  have hname : cutName? c.rest = some (x, ':' :: t) := by
    rw [hrest]
    exact cutName?_append hx (endsName_cons (by decide) t)
  have hne : x ≠ [] := cutName?_ne_nil hname
  obtain ⟨ch, u, hcons, hch, -⟩ := cutName?_eq_some.mp hname
  have hcall : Rule.call.find? c.before c.rest = none := (reads_call hname).find?_eq_none
  have hm := match?_of_root hmode hcons
  rw [Mode.rootRulesOn_of_isNameStart hch, firstMatch?_of_not_reserved hname hreserved,
    firstMatch?_of_none _ hcall] at hm
  have hlabel : Rule.label.find? c.before c.rest =
      if atLineStart c.before then findLabel? c.before c.rest else none := rfl
  cases hline : atLineStart c.before with
  | true =>
      have hfind : findLabel? c.before c.rest =
          some (.plain [⟨.label, x⟩, ⟨.punctuation, [':']⟩] t .stay) := by
        simp [findLabel?, hname, cutMark?_singleton, Guard.admits, ht, Option.filter]
      rw [hline, if_pos rfl, hfind] at hlabel
      rw [firstMatch?_of_some _ hlabel (advancesBy_of_text_ne_nil (by simp [hne]))] at hm
      simpa using Run.single (step?_of_stay (by simp [hcons]) hm)
  | false =>
      rw [hline, if_neg Bool.false_ne_true] at hlabel
      have haccess : Rule.memberAccess.find? c.before c.rest = none := by
        show findMemberAccess? c.rest = none
        rw [findMemberAccess?, hname, Option.bind_some]
        rfl
      rw [firstMatch?_of_none _ hlabel, firstMatch?_of_none _ haccess,
        firstMatch?_of_scan _ rfl hname hne] at hm
      have hst := step?_of_stay (by simp [hcons]) hm
      have hcolon := step?_colon (c := c.past x (':' :: t)) hmode rfl
      rw [past_past] at hcolon
      simp only [textOf_cons, textOf_nil, List.append_nil] at hst
      exact .step hst (.single hcolon)

/-- A name on no list with blanks in front of it and a single colon behind it. -/
theorem exists_run_blanksNameColon (hmode : c.mode = .root) (hw : Blanks w)
    (hx : isName x = true) (hreserved : isReserved x = false) (ht : t.head? ≠ some ':')
    (hrest : c.rest = w ++ (x ++ ':' :: t)) :
    ∃ ws, (∀ l ∈ ws, l.kind = .text) ∧ textOf ws = w ∧
      c.Run (ws ++ [⟨if atLineStart (c.lastTaken w) then .label else .name, x⟩,
        ⟨.punctuation, [':']⟩]) (c.past (w ++ (x ++ [':'])) t) := by
  obtain ⟨ch, u, rfl⟩ := List.exists_cons_of_ne_nil (show x ≠ [] by rintro rfl; cases hx)
  have hch : opensLead ch = false :=
    forall_isNameStart (p := fun c => opensLead c = false) (by decide) (by decide)
      (Bool.and_eq_true_iff.mp hx).1
  obtain ⟨ws, hblanks, hkinds, htext⟩ := exists_run_blanks hmode hw hch hrest
  have hname := exists_run_nameColon (c := c.past w (ch :: u ++ ':' :: t)) hmode hx hreserved ht rfl
  rw [past_past] at hname
  exact ⟨ws, hkinds, htext, hblanks.trans hname⟩

end Cursor

/-- Blanks without a line feed lead away from the start of a line. -/
theorem atLineStart_lastTaken_iff {c : Cursor} (hline : atLineStart c.before = true)
    (hw : '\n' ∉ w) : atLineStart (c.lastTaken w) = true ↔ w = [] := by
  constructor
  · intro h
    by_contra hne
    rw [Cursor.lastTaken, List.getLast?_eq_some_getLast hne, Option.some_or, atLineStart_iff] at h
    rcases h with h | h
    · cases h
    · exact hw (Option.some.inj h ▸ List.getLast_mem hne)
  · rintro rfl
    exact hline

/-- **A label stands at the very start of its line.** In root mode, a name on no
list with a single colon behind it is a label if the blanks in front of it bring
the cursor to the start of a line, and a plain name if they do not. From the start
of a line, blanks without a line feed do so only where there are none. -/
theorem labels_begin_lines {c : Cursor} {w x t : List Char} (hmode : c.mode = .root)
    (hw : Blanks w) (hx : isName x = true) (hreserved : isReserved x = false)
    (ht : t.head? ≠ some ':') (hrest : c.rest = w ++ (x ++ ':' :: t)) :
    (∃ ws, (∀ l ∈ ws, l.kind = .text) ∧ textOf ws = w ∧
      c.Run (ws ++ [⟨if atLineStart (c.lastTaken w) then .label else .name, x⟩,
        ⟨.punctuation, [':']⟩]) (c.past (w ++ (x ++ [':'])) t)) ∧
      (atLineStart c.before = true → '\n' ∉ w →
        (atLineStart (c.lastTaken w) = true ↔ w = [])) :=
  ⟨Cursor.exists_run_blanksNameColon hmode hw hx hreserved ht hrest, atLineStart_lastTaken_iff⟩

/-- Blanks that end in a line feed do not keep a name from being a label. -/
theorem labels_begin_lines_lineFeed :
    (⟨some ';', [.root], " \nagain: y".toList⟩ : Cursor).mode = .root ∧ Blanks " \n".toList ∧
      isName "again".toList = true ∧ isReserved "again".toList = false ∧
      " y".toList.head? ≠ some ':' ∧
      ∃ ws, (∀ l ∈ ws, l.kind = .text) ∧ textOf ws = " \n".toList ∧
        Cursor.Run ⟨some ';', [.root], " \nagain: y".toList⟩
          (ws ++ [⟨.label, "again".toList⟩, ⟨.punctuation, [':']⟩])
          ⟨some ':', [.root], " y".toList⟩ := by
  have hw : Blanks " \n".toList := by simp [Blanks]; decide
  have hx : isName "again".toList = true := by decide
  have hreserved : isReserved "again".toList = false := by decide
  have ht : " y".toList.head? ≠ some ':' := by decide
  obtain ⟨hrun, -⟩ := labels_begin_lines (c := ⟨some ';', [.root], " \nagain: y".toList⟩) rfl hw hx
    hreserved ht rfl
  exact ⟨rfl, hw, hx, hreserved, ht, hrun⟩

/-- Behind a space at the start of a line no name is a label. -/
theorem indented_name_is_no_label :
    ¬∀ (s : List Char) (c : Cursor) (w x t : List Char), Cursor.Reaches s c → c.stack = [.root] →
      atLineStart c.before = true → (∀ ch ∈ w, ch = ' ' ∨ ch = '\t') → isName x = true →
        isReserved x = false → t.head? ≠ some ':' → c.rest = w ++ (x ++ ':' :: t) →
          ∃ ws ls, c.lexemes = ws ++ ⟨.label, x⟩ :: ⟨.punctuation, [':']⟩ :: ls ∧
            textOf ws = w := by
  intro h
  obtain ⟨ws, ls, hlexemes, -⟩ := h " a:".toList (Cursor.start " a:".toList) [' '] ['a'] []
    ⟨[], .refl _⟩ rfl rfl (by simp) (by decide) (by decide) (by simp) rfl
  have hblanks : Blanks [' '] := by simp [Blanks]; decide
  obtain ⟨blanks, hkinds, -, hrun⟩ := Cursor.exists_run_blanksNameColon
    (c := Cursor.start " a:".toList) (x := ['a']) (t := []) rfl hblanks (by decide) (by decide)
    (by simp) rfl
  have hmem : (⟨.label, ['a']⟩ : Lexeme) ∈ (Cursor.start " a:".toList).lexemes := by
    rw [hlexemes]
    exact List.mem_append_right _ (List.mem_cons_self ..)
  rw [hrun.lexemes_eq, Cursor.lexemes_of_nil rfl, List.append_nil, List.mem_append] at hmem
  rcases hmem with hmem | hmem
  · cases hkinds _ hmem
  · simp [Cursor.lastTaken, atLineStart] at hmem

end GaussMarkup
