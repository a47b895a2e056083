import GaussMarkup.Proofs.Lexer.CommentExtent
import GaussMarkup.Proofs.Lexer.Restart
import GaussMarkup.Proofs.Lexer.Stacks

/-!
# Where a directive begins

At the start of a line the rules for directives look for a `#` behind a lead:
behind blanks, perhaps with a comment among them. Blanks may hold line feeds, so
the `#` need not stand in the line in which its lead begins. Only these two rules
leave root mode for directives and for blocks that are switched off
(`Cursor.directiveAt_of_pushes`), and one of them finds a match wherever there is
a lead with a `#` behind it (`Cursor.exists_match?_of_lead`). So what stands in
front of the `#` in its own line is a lead as well: the end of a lead behind its
last line feed is one (`Lead.exists_lastLine`).

The comment of a lead ends at some end mark of its line, which need not be the
first one. And blanks that are taken on their own are taken with their line feeds:
a `#` behind them is at the start of a line only if the last of them is a line
feed (`MeetsLineStart`).
-/

namespace GaussMarkup

/-! ## Leads -/

/-- Nothing but blanks. -/
def Blanks (w : List Char) : Prop :=
  ∀ ch ∈ w, isBlank ch = true

/-- What may stand in front of a directive: blanks, or a comment between blanks
that goes on to an end mark of its line. -/
inductive Lead : List Char → Prop
  | blanks {w : List Char} : Blanks w → Lead w
  | comment {w q v : List Char} :
      Blanks w → LeadComment q → '\n' ∉ q → Blanks v → Lead (w ++ q ++ v)

/-- A comment that ends at its first end mark. -/
def ClosedComment (q : List Char) : Prop :=
  Shortest (Encloses ['/', '*'] [['*', '/']]) q q ∨ Shortest (Encloses ['@'] [['@']]) q q

/-- The signs that a directive begins with. -/
inductive DirectiveSign : List Char → Prop
  | hash : DirectiveSign ['#']
  | disabled {word w : List Char} :
      word.map fold = "#if".toList → Blanks w → w ≠ [] → DirectiveSign (word ++ w ++ ['0'])

variable {p q r s t v w : List Char}

theorem dropWhile_blanks (hw : Blanks w) {ch : Char} (hch : isBlank ch = false) (t : List Char) :
    (w ++ ch :: t).dropWhile isBlank = ch :: t := by
  rw [List.dropWhile_append_of_pos hw, List.dropWhile_cons_of_neg (by simp [hch])]

theorem blanks_takeWhile (s : List Char) : Blanks (s.takeWhile isBlank) :=
  List.all_eq_true.mp List.all_takeWhile

/-- The comment of a lead does not begin with a blank. -/
theorem LeadComment.exists_cons (h : LeadComment q) :
    ∃ ch t, q = ch :: t ∧ isBlank ch = false ∧ ch ≠ '#' := by
  rcases h with hslash | hat
  · obtain ⟨t, rfl⟩ := hslash.opens
    exact ⟨'/', '*' :: t, rfl, by decide, by decide⟩
  · obtain ⟨t, rfl⟩ := hat.opens
    exact ⟨'@', t, rfl, by decide, by decide⟩

theorem exists_lead_of_mem_restsBehindLead (h : r ∈ restsBehindLead s) :
    ∃ p, s = p ++ r ∧ Lead p := by
  have hsplit := List.takeWhile_append_dropWhile (p := isBlank) (l := s)
  rcases List.mem_append.mp h with h | h
  · obtain ⟨y, hy, hdrop⟩ := List.mem_map.mp h
    obtain ⟨q, hfeed, hlead, hs⟩ := mem_restsBehindComment_iff.mp hy
    have hy := List.takeWhile_append_dropWhile (p := isBlank) (l := y)
    refine ⟨s.takeWhile isBlank ++ q ++ y.takeWhile isBlank, ?_,
      .comment (blanks_takeWhile s) hlead hfeed (blanks_takeWhile y)⟩
    rw [List.append_assoc, ← hdrop, hy, List.append_assoc, ← hs, hsplit]
  · rw [← List.mem_singleton.mp h] at hsplit
    exact ⟨_, hsplit.symm, .blanks (blanks_takeWhile s)⟩

/-- The texts behind the leads are found, as far as they do not begin with a
blank. -/
theorem mem_restsBehindLead_iff {ch : Char} (hch : isBlank ch = false) :
    ch :: t ∈ restsBehindLead s ↔ ∃ p, s = p ++ ch :: t ∧ Lead p := by
  refine ⟨exists_lead_of_mem_restsBehindLead, ?_⟩
  rw [restsBehindLead, List.mem_append]
  rintro ⟨p, rfl, hw | @⟨w, q, v, hw, hlead, hfeed, hv⟩⟩
  · exact Or.inr (List.mem_singleton.mpr (dropWhile_blanks hw hch t).symm)
  · refine Or.inl (List.mem_map.mpr ⟨v ++ ch :: t, ?_, dropWhile_blanks hv hch t⟩)
    refine mem_restsBehindComment_iff.mpr ⟨q, hfeed, hlead, ?_⟩
    obtain ⟨d, u, rfl, hd, -⟩ := hlead.exists_cons
    simpa using dropWhile_blanks hw hd (u ++ (v ++ ch :: t))

/-- Blanks in front of a `#` are all of its lead. -/
theorem Lead.eq_blanks (hp : Lead p) (hw : Blanks w) (h : p ++ '#' :: t = w ++ '#' :: s) :
    p = w := by
  have hhash : isBlank '#' = false := by decide
  have hdrop := congrArg (List.dropWhile isBlank) h
  rw [dropWhile_blanks hw hhash] at hdrop
  cases hp with
  | blanks hp =>
      rw [dropWhile_blanks hp hhash] at hdrop
      rw [hdrop] at h
      exact List.append_cancel_right h
  | @comment w' q v hw' hlead _ _ =>
      obtain ⟨ch, u, rfl, hch, hne⟩ := hlead.exists_cons
      have hcomment := dropWhile_blanks hw' hch (u ++ (v ++ '#' :: t))
      simp only [List.append_assoc, List.cons_append] at hdrop hcomment
      rw [hcomment] at hdrop
      exact absurd (List.cons.inj hdrop).1 hne

/-! ## The last line of a lead -/

/-- A text is empty or ends in a line feed. -/
def EndsLine (s : List Char) : Prop :=
  s = [] ∨ s.getLast? = some '\n'

theorem EndsLine.append (hp : EndsLine p) (hq : EndsLine q) : EndsLine (p ++ q) := by
  rcases hq with rfl | hlast
  · rwa [List.append_nil]
  · exact Or.inr (by simp [hlast])

theorem atLineStart_iff {before : Option Char} :
    atLineStart before = true ↔ before = none ∨ before = some '\n' := by
  simp [atLineStart]

/-- A text is cut in front of its last line. -/
theorem exists_lastLine (s : List Char) :
    ∃ above line, s = above ++ line ∧ EndsLine above ∧ '\n' ∉ line := by
  induction s with
  | nil => exact ⟨[], [], rfl, Or.inl rfl, List.not_mem_nil⟩
  | cons ch s ih =>
      obtain ⟨above, line, rfl, habove, hline⟩ := ih
      rcases habove with rfl | hlast
      · by_cases hfeed : ch = '\n'
        · exact ⟨[ch], line, rfl, Or.inr (by simp [hfeed]), hline⟩
        · exact ⟨[], ch :: line, rfl, Or.inl rfl, by simp [hline, Ne.symm hfeed]⟩
      · exact ⟨ch :: above, line, rfl, Or.inr (by simp [List.getLast?_cons, hlast]), hline⟩

theorem Blanks.of_append (h : Blanks (w ++ v)) : Blanks w ∧ Blanks v :=
  List.forall_mem_append.mp h

/-- The last line of a lead is a lead. -/
theorem Lead.exists_lastLine (hp : Lead p) :
    ∃ above line, p = above ++ line ∧ EndsLine above ∧ '\n' ∉ line ∧ Lead line := by
  cases hp with
  | blanks hp =>
      obtain ⟨above, line, rfl, habove, hline⟩ := GaussMarkup.exists_lastLine p
      exact ⟨above, line, rfl, habove, hline, .blanks hp.of_append.2⟩
  | @comment w q v hw hlead hfeed hv =>
      obtain ⟨above, line, rfl, habove, hline⟩ := GaussMarkup.exists_lastLine v
      rcases habove with rfl | hlast
      · -- The comment stands in the last line, with what is left of the blanks in front of it.
        obtain ⟨front, blanks, rfl, hfront, hblanks⟩ := GaussMarkup.exists_lastLine w
        refine ⟨front, blanks ++ q ++ line, by simp, hfront, by simp [hblanks, hfeed, hline], ?_⟩
        exact .comment hw.of_append.2 hlead hfeed hv.of_append.2
      · exact ⟨w ++ q ++ above, line, by simp, Or.inr (by simp [hlast]), hline,
          .blanks hv.of_append.2⟩

/-! ## What the rules for directives find -/

/-- A match for a directive: its lead is lexed on its own, and its sign is one
lexeme. -/
def DirectiveAt (s : List Char) (m : Match) : Prop :=
  ∃ p sign t mode, s = p ++ (sign ++ t) ∧ Lead p ∧ DirectiveSign sign ∧
    (mode = .directive ∨ mode = .disabled) ∧ m = ⟨[], p, [⟨.directive, sign⟩], t, .push mode⟩

theorem DirectiveSign.exists_cons {sign : List Char} (h : DirectiveSign sign) :
    ∃ t, sign = '#' :: t := by
  cases h with
  | hash => exact ⟨[], rfl⟩
  | @disabled word w hword _ _ =>
      obtain ⟨ch, u, rfl, hch, -⟩ := List.map_eq_cons_iff.mp hword
      obtain rfl := (fold_eq_iff (by decide) (by decide) ch).mp hch
      exact ⟨u ++ w ++ ['0'], rfl⟩

theorem directiveSign_of_cutDisabledStart? {x : Cut} (h : cutDisabledStart? r = some x) :
    DirectiveSign x.1 := by
  obtain ⟨y, hy, h⟩ := Option.bind_eq_some_iff.mp h
  obtain ⟨z, hz, h⟩ := Option.bind_eq_some_iff.mp h
  obtain ⟨u, hu, rfl⟩ := Option.map_eq_some_iff.mp h
  obtain ⟨hne, rfl⟩ := cutRun?_eq_some.mp hz
  rw [(cutMark?_eq_some.mp hu).1]
  exact .disabled (cutWord?_eq_some.mp hy).1 (blanks_takeWhile _) hne

theorem directiveSign_of_cutMark? {x : Cut} (h : cutMark? ['#'] r = some x) :
    DirectiveSign x.1 := by
  rw [(cutMark?_eq_some.mp h).1]
  exact .hash

theorem directiveAt_of_findDirective? {start : List Char → Option Cut} {mode : Mode} {m : Match}
    (hjoin : Joins start) (hsign : ∀ r x, start r = some x → DirectiveSign x.1)
    (hmode : mode = .directive ∨ mode = .disabled) (h : findDirective? start mode s = some m) :
    DirectiveAt s m := by
  obtain ⟨r, hr, h⟩ := List.exists_of_findSome?_eq_some h
  obtain ⟨x, hx, h⟩ := Option.bind_eq_some_iff.mp h
  split at h
  · cases h
  obtain rfl := Option.some.inj h
  have hx' := hsign r x hx
  obtain ⟨u, hu⟩ := hx'.exists_cons
  have hr' : r = '#' :: (u ++ x.2) := by rw [← hjoin hx, hu, List.cons_append]
  rw [hr'] at hr
  obtain ⟨p, rfl, hp⟩ := (mem_restsBehindLead_iff (by decide)).mp hr
  refine ⟨p, x.1, x.2, mode, by rw [hu, List.cons_append], hp, hx', hmode, ?_⟩
  rw [hr', cutBefore_append]

theorem exists_findDirective?_of_lead (mode : Mode) (hp : Lead p) (t : List Char) :
    ∃ m, findDirective? (cutMark? ['#']) mode (p ++ '#' :: t) = some m := by
  have hhash : isBlank '#' = false := by decide
  have hmem : '#' :: t ∈ restsBehindLead (p ++ '#' :: t) :=
    (mem_restsBehindLead_iff hhash).mpr ⟨p, rfl, hp⟩
  refine Option.isSome_iff_exists.mp (List.findSome?_isSome_iff.mpr ⟨_, hmem, ?_⟩)
  rw [cutMark?_singleton]
  rfl

theorem atLineStart_of_find? {before : Option Char} {m : Match}
    (h : Rule.disabledStart.find? before s = some m ∨
      Rule.directiveStart.find? before s = some m) :
    atLineStart before = true ∧ DirectiveAt s m := by
  rcases h with h | h
  · simp only [Rule.disabledStart, Rule.atLineStart] at h
    split at h
    · next hline =>
      exact ⟨hline, directiveAt_of_findDirective? joins_cutDisabledStart?
        (fun _ _ => directiveSign_of_cutDisabledStart?) (Or.inr rfl) h⟩
    · cases h
  · simp only [Rule.directiveStart, Rule.atLineStart] at h
    split at h
    · next hline =>
      exact ⟨hline, directiveAt_of_findDirective? (joins_cutMark? _)
        (fun _ _ => directiveSign_of_cutMark?) (Or.inl rfl) h⟩
    · cases h

theorem DirectiveAt.text_ne_nil {m : Match} (h : DirectiveAt s m) : m.text ≠ [] := by
  obtain ⟨p, sign, t, mode, -, -, hsign, -, rfl⟩ := h
  obtain ⟨u, rfl⟩ := hsign.exists_cons
  simp [Match.text]

namespace Cursor

variable {c : Cursor} {m : Match}

/-- Only the rules for directives switch to their modes. -/
theorem directiveAt_of_pushes {mode : Mode} (hroot : c.mode = .root)
    (hmode : mode = .directive ∨ mode = .disabled) (hm : c.match? = some m)
    (hmove : m.move = .push mode) : atLineStart c.before = true ∧ DirectiveAt c.rest m := by
  obtain ⟨rule, hrule, hfind, -⟩ := find_of_match? hm
  rw [hroot] at hrule
  have hcases : rule ∈ Rule.disabledStart :: Rule.directiveStart :: Mode.root.rules.drop 2 := hrule
  rcases List.mem_cons.mp hcases with rfl | hcases
  · exact atLineStart_of_find? (Or.inl hfind)
  rcases List.mem_cons.mp hcases with rfl | hcases
  · exact atLineStart_of_find? (Or.inr hfind)
  · obtain ⟨move, hmem, hmakes⟩ := Rule.exists_makes_of_root rule hcases
    rw [← (hmakes _ _ _ hfind).2, hmove] at hmem
    rcases hmode with rfl | rfl
    · exact absurd hmem (by decide)
    · exact absurd hmem (by decide)

theorem exists_match?_of_lead (hroot : c.mode = .root) (hline : atLineStart c.before = true)
    (hrest : c.rest = p ++ '#' :: t) (hp : Lead p) :
    ∃ m, c.match? = some m ∧ DirectiveAt c.rest m := by
  obtain ⟨m, hfind⟩ := exists_findDirective?_of_lead .directive hp t
  have hfind : Rule.directiveStart.find? c.before c.rest = some m := by
    rw [hrest]
    simpa only [Rule.directiveStart, Rule.atLineStart, hline, if_true] using hfind
  have hat := (atLineStart_of_find? (Or.inr hfind)).2
  rw [match?_eq_firstMatch?, hroot, Mode.rules]
  rcases firstMatch?_cons c .disabledStart _ with ⟨m, hm, hfirst⟩ | hnone
  · exact ⟨m, hfirst, (atLineStart_of_find? (Or.inl hm)).2⟩
  · rw [hnone]
    exact ⟨m, firstMatch?_of_some _ hfind (advancesBy_of_text_ne_nil hat.text_ne_nil), hat⟩

/-! ## Blanks in front of a `#` -/

/-- Not at the start of a line, the rules for directives find nothing. -/
theorem match?_of_not_atLineStart {ch : Char} (hroot : c.mode = .root)
    (hline : atLineStart c.before = false) (hrest : c.rest = ch :: t)
    (hch : opensLead ch = true) :
    c.match? = c.firstMatch? ((Mode.rootRulesOn ch).drop 2) := by
  rcases match?_of_opensLead hroot hrest hch with ⟨m, -, hfind⟩ | hm
  · rw [(atLineStart_of_find? hfind).1] at hline
    cases hline
  · exact hm

/-- A `#` at the start of a line, with blanks in front of it, begins a directive. -/
theorem exists_lexemes_of_atLineStart (hroot : c.mode = .root)
    (hline : atLineStart c.before = true) (hw : Blanks w) (hrest : c.rest = w ++ '#' :: t) :
    ∃ ws sign ls, c.lexemes = ws ++ ⟨.directive, sign⟩ :: ls ∧ textOf ws = w ∧
      DirectiveSign sign := by
  obtain ⟨m, hm, p, sign, u, mode, hs, hp, hsign, -, rfl⟩ :=
    exists_match?_of_lead hroot hline hrest (.blanks hw)
  obtain ⟨v, rfl⟩ := hsign.exists_cons
  obtain rfl := hp.eq_blanks hw (hs.symm.trans hrest)
  have hlexemes := lexemes_of_step? (step?_of_match (by simp [hrest]) hm)
  simp only [Match.yield, List.nil_append, List.append_assoc, List.singleton_append] at hlexemes
  exact ⟨_, _, _, hlexemes, GaussMarkup.textOf_lexemes p, hsign⟩

/-- A `#` elsewhere in a line is plain text. -/
theorem exists_lexemes_of_not_atLineStart (hroot : c.mode = .root)
    (hline : atLineStart c.before = false) (hrest : c.rest = '#' :: t) :
    ∃ ls, c.lexemes = ⟨.text, ['#']⟩ :: ls := by
  have hrules : (Mode.rootRulesOn '#').drop 2 = [.other] := rfl
  have hm := match?_of_not_atLineStart hroot hline hrest rfl
  have hscan : cutOne? (· != '\n') c.rest = some (['#'], t) := by
    rw [hrest]
    rfl
  rw [hrules, firstMatch?_of_scan [] rfl hscan (by simp)] at hm
  exact ⟨_, lexemes_of_step? (step?_of_plain (by simp [hrest]) hm)⟩

/-- Not at the start of a line, blanks in front of a `#` are taken together, or
their first line feed alone. -/
theorem exists_step?_of_blanks (hroot : c.mode = .root) (hline : atLineStart c.before = false)
    (hw : Blanks w) (hne : w ≠ []) (hrest : c.rest = w ++ '#' :: t) :
    ∃ taken left d, w = taken ++ left ∧ c.step? = some ⟨[⟨.text, taken⟩], d⟩ ∧ d.mode = .root ∧
      d.rest = left ++ '#' :: t ∧ d.before = taken.getLast? ∧
        (taken = ['\n'] ∨ w.head? ≠ some '\n' ∧ left = []) := by
  obtain ⟨ch, w, rfl⟩ := List.exists_cons_of_ne_nil hne
  have hch : opensLead ch = true := by simp [opensLead, hw ch (List.mem_cons_self ..)]
  have hm := match?_of_not_atLineStart hroot hline hrest hch
  by_cases hfeed : ch = '\n'
  · subst hfeed
    rw [firstMatch?_of_lineFeed hrest] at hm
    exact ⟨['\n'], w, _, rfl, step?_of_plain (by simp [hrest]) hm, hroot, rfl, rfl, Or.inl rfl⟩
  · rw [firstMatch?_of_blanks hw hfeed rfl hrest] at hm
    refine ⟨ch :: w, [], _, by simp, step?_of_plain (by simp [hrest]) hm, hroot, rfl, ?_,
      Or.inr ⟨by simpa using hfeed, rfl⟩⟩
    simp [behind, lastTaken, Match.plain, Match.text, List.getLast?_cons]

end Cursor

/-- Blanks in front of a `#` bring it to the start of a line: they begin there, or
with a line feed of their own, or a line feed is the last of them. -/
def MeetsLineStart (before : Option Char) (w : List Char) : Prop :=
  atLineStart before = true ∨ w.head? = some '\n' ∨ w.getLast? = some '\n'

/-- **A `#` behind blanks.** In root mode, a `#` with blanks in front of it begins
a directive if the blanks bring it to the start of a line, and is plain text if
they do not. -/
theorem directives_behind_blanks {c : Cursor} (hroot : c.mode = .root) (hw : Blanks w)
    (hrest : c.rest = w ++ '#' :: t) :
    (MeetsLineStart c.before w → ∃ ws sign ls, c.lexemes = ws ++ ⟨.directive, sign⟩ :: ls ∧
        textOf ws = w ∧ DirectiveSign sign) ∧
      (¬MeetsLineStart c.before w → ∃ ws ls, c.lexemes = ws ++ ⟨.text, ['#']⟩ :: ls ∧
        textOf ws = w) := by
  constructor
  · intro hmeets
    cases hline : atLineStart c.before with
    | true => exact Cursor.exists_lexemes_of_atLineStart hroot hline hw hrest
    | false =>
        have hmeets := hmeets.resolve_left (by simp [hline])
        have hne : w ≠ [] := by
          rintro rfl
          simp at hmeets
        obtain ⟨taken, left, d, rfl, hst, hd, hdrest, hbefore, hcases⟩ :=
          Cursor.exists_step?_of_blanks hroot hline hw hne hrest
        have hdline : atLineStart d.before = true := by
          rw [hbefore, atLineStart_iff]
          rcases hcases with rfl | ⟨hhead, rfl⟩
          · exact Or.inr rfl
          · rw [List.append_nil] at hhead hmeets
            exact Or.inr (hmeets.resolve_left hhead)
        obtain ⟨ws, sign, ls, hlexemes, htext, hsign⟩ :=
          Cursor.exists_lexemes_of_atLineStart hd hdline hw.of_append.2 hdrest
        refine ⟨⟨.text, taken⟩ :: ws, sign, ls, ?_, by simp [htext], hsign⟩
        rw [Cursor.lexemes_of_step? hst, hlexemes]
        rfl
  · intro hmeets
    rw [MeetsLineStart, not_or, not_or, Bool.not_eq_true] at hmeets
    obtain ⟨hline, hhead, hlast⟩ := hmeets
    cases w with
    | nil =>
        obtain ⟨ls, hlexemes⟩ := Cursor.exists_lexemes_of_not_atLineStart hroot hline hrest
        exact ⟨[], ls, hlexemes, rfl⟩
    | cons ch w =>
        obtain ⟨taken, left, d, hsplit, hst, hd, hdrest, hbefore, hcases⟩ :=
          Cursor.exists_step?_of_blanks hroot hline hw (List.cons_ne_nil _ _) hrest
        obtain rfl : left = [] := by
          rcases hcases with rfl | ⟨-, rfl⟩
          · rw [hsplit] at hhead
            exact absurd rfl hhead
          · rfl
        rw [List.append_nil] at hsplit
        have hdline : atLineStart d.before = false := by
          rw [← hsplit] at hbefore
          rw [Bool.eq_false_iff, Ne, atLineStart_iff, hbefore]
          simp [hlast]
        obtain ⟨ls, hlexemes⟩ := Cursor.exists_lexemes_of_not_atLineStart hd hdline hdrest
        refine ⟨[⟨.text, taken⟩], ls, ?_, by simp [hsplit]⟩
        rw [Cursor.lexemes_of_step? hst, hlexemes]

/-- A line feed that follows code directly is taken alone. -/
theorem directives_behind_blanks_lineFeed :
    (⟨some ';', [.root], "\n \r\n\t#if 0".toList⟩ : Cursor).mode = .root ∧
      Blanks "\n \r\n\t".toList ∧ MeetsLineStart (some ';') "\n \r\n\t".toList ∧
      ∃ ws sign ls, (⟨some ';', [.root], "\n \r\n\t#if 0".toList⟩ : Cursor).lexemes =
        ws ++ ⟨.directive, sign⟩ :: ls ∧ textOf ws = "\n \r\n\t".toList ∧
          DirectiveSign sign := by
  have hw : Blanks "\n \r\n\t".toList := by simp [Blanks]; decide
  have hmeets : MeetsLineStart (some ';') "\n \r\n\t".toList := Or.inr (Or.inl rfl)
  exact ⟨rfl, hw, hmeets, (directives_behind_blanks
    (c := ⟨some ';', [.root], "\n \r\n\t#if 0".toList⟩) rfl hw rfl).1 hmeets⟩

/-- A line feed is not enough: behind a blank that ends the line of code, it is
taken with the blanks in front of the `#`. -/
theorem hash_behind_trailing_blank :
    ¬∀ (s : List Char) (c : Cursor) (w t : List Char), Cursor.Reaches s c → c.stack = [.root] →
      Blanks w → '\n' ∈ w → c.rest = w ++ '#' :: t →
        ∃ ws sign ls, c.lexemes = ws ++ ⟨.directive, sign⟩ :: ls ∧ textOf ws = w ∧
          DirectiveSign sign := by
  intro h
  have hm : (Cursor.start "; \n #".toList).match? =
      some (.plain [⟨.punctuation, [';']⟩] " \n #".toList .stay) := by decide
  have hreach : Cursor.Reaches "; \n #".toList ⟨some ';', [.root], " \n #".toList⟩ :=
    ⟨_, .single (Cursor.step?_of_plain (by simp [Cursor.start]) hm)⟩
  have hw : Blanks " \n ".toList := by simp [Blanks]; decide
  obtain ⟨ws, sign, ls, hlexemes, -⟩ := h _ _ " \n ".toList [] hreach rfl hw (by decide) rfl
  have hblanks : (⟨some ';', [.root], " \n #".toList⟩ : Cursor).match? =
      some (.plain [⟨.text, " \n ".toList⟩] ['#'] .stay) := by decide
  have hhash : (⟨some ' ', [.root], ['#']⟩ : Cursor).match? =
      some (.plain [⟨.text, ['#']⟩] [] .stay) := by decide
  have hend : (⟨some ' ', [.root], ['#']⟩ : Cursor).lexemes = [⟨.text, ['#']⟩] ++ [] := by
    rw [Cursor.lexemes_of_step? (Cursor.step?_of_plain (by simp) hhash)]
    exact congrArg _ (Cursor.lexemes_of_nil rfl)
  have hall : (⟨some ';', [.root], " \n #".toList⟩ : Cursor).lexemes =
      [⟨.text, " \n ".toList⟩] ++ ([⟨.text, ['#']⟩] ++ []) := by
    rw [Cursor.lexemes_of_step? (Cursor.step?_of_plain (by simp) hblanks), ← hend]
    rfl
  have hmem : (⟨.directive, sign⟩ : Lexeme) ∈ ws ++ ⟨.directive, sign⟩ :: ls := by simp
  rw [← hlexemes, hall] at hmem
  simp at hmem

/-! ## What stands in front of a directive -/

/-- A step leaves root mode for a directive or for a block that is switched off. -/
def Step.OpensDirective (st : Step) : Prop :=
  ∃ mode, (mode = .directive ∨ mode = .disabled) ∧ st.next.stack = [mode, .root]

namespace Cursor

variable {c : Cursor} {st : Step}

theorem directiveAt_of_opensDirective (hstack : c.stack = [.root]) (hst : c.step? = some st)
    (h : st.OpensDirective) :
    atLineStart c.before = true ∧ ∃ m, DirectiveAt c.rest m ∧ st = ⟨m.yield, c.behind m⟩ := by
  obtain ⟨mode, hmode, hnext⟩ := h
  obtain ⟨-, ⟨m, hm, rfl⟩ | ⟨ch, rest, -, -, rfl⟩⟩ := step?_cases hst
  · have hmove : m.move = .push mode := by
      simp only [behind, hstack] at hnext
      cases hmove : m.move with
      | stay => simp [hmove, Move.apply] at hnext
      | pop => simp [hmove, Move.apply] at hnext
      | push mode' =>
          rw [hmove] at hnext
          rw [(List.cons.inj hnext).1]
    obtain ⟨hline, hat⟩ := directiveAt_of_pushes (mode_of_stack hstack) hmode hm hmove
    exact ⟨hline, m, hat, rfl⟩
  · simp only [behindChar, hstack] at hnext
    split at hnext <;> cases hnext

theorem opensDirective_iff (hstack : c.stack = [.root]) (hst : c.step? = some st) :
    st.OpensDirective ↔
      atLineStart c.before = true ∧ ∃ p t, c.rest = p ++ '#' :: t ∧ Lead p := by
  constructor
  · intro h
    obtain ⟨hline, m, ⟨p, sign, t, mode, hs, hp, hsign, -, -⟩, -⟩ :=
      directiveAt_of_opensDirective hstack hst h
    obtain ⟨u, rfl⟩ := hsign.exists_cons
    exact ⟨hline, p, u ++ t, hs, hp⟩
  · rintro ⟨hline, p, t, hrest, hp⟩
    obtain ⟨m, hm, q, sign, u, mode, -, -, -, hmode, rfl⟩ :=
      exists_match?_of_lead (mode_of_stack hstack) hline hrest hp
    have hstep := step?_of_match (by simp [hrest]) hm
    obtain rfl := Option.some.inj (hstep.symm.trans hst)
    refine ⟨mode, hmode, ?_⟩
    simp [behind, hstack, Move.apply]

end Cursor

/-- **A directive is the first item of its line.** The run over a source leaves
root mode for a directive or a block just where it is at the start of a line, with
a lead and a `#` behind that. What precedes the sign of the directive in its own
line is a lead then, and the sign is the last lexeme of the step. -/
theorem directives_open_lines {s : List Char} {c : Cursor} {st : Step}
    (hreach : Cursor.Reaches s c) (hstack : c.stack = [.root]) (hst : c.step? = some st) :
    (st.OpensDirective ↔
        atLineStart c.before = true ∧ ∃ p t, c.rest = p ++ '#' :: t ∧ Lead p) ∧
      (st.OpensDirective → ∃ above line sign,
        s = above ++ line ++ sign ++ st.next.rest ∧ EndsLine above ∧ '\n' ∉ line ∧ Lead line ∧
          DirectiveSign sign ∧ st.lexemes.getLast? = some ⟨.directive, sign⟩) := by
  refine ⟨Cursor.opensDirective_iff hstack hst, fun h => ?_⟩
  obtain ⟨hline, m, ⟨p, sign, t, mode, hrest, hp, hsign, -, rfl⟩, rfl⟩ :=
    Cursor.directiveAt_of_opensDirective hstack hst h
  obtain ⟨ls, hrun⟩ := hreach
  have hbehind : EndsLine (textOf ls) := by
    rw [hrun.before_eq, atLineStart_iff] at hline
    rcases hline with hnone | hlast
    · exact Or.inl (List.getLast?_eq_none_iff.mp (Option.or_eq_none_iff.mp hnone).1)
    · rcases Option.or_eq_some_iff.mp hlast with hlast | ⟨-, hstart⟩
      · exact Or.inr hlast
      · cases hstart
  obtain ⟨above, line, rfl, habove, hfeed, hlead⟩ := hp.exists_lastLine
  have hs : s = textOf ls ++ c.rest := hrun.textOf_eq.symm
  refine ⟨textOf ls ++ above, line, sign, ?_, hbehind.append habove, hfeed, hlead, hsign, ?_⟩
  · rw [hs, hrest]
    simp [Cursor.behind]
  · simp [Match.yield]

/-- The lead begins in the line above the directive, and holds a comment. -/
theorem directives_open_lines_comment :
    Cursor.Reaches "\n/* a */ \t#y".toList (Cursor.start "\n/* a */ \t#y".toList) ∧
      (Cursor.start "\n/* a */ \t#y".toList).stack = [.root] ∧
      ∃ st, (Cursor.start "\n/* a */ \t#y".toList).step? = some st ∧ st.OpensDirective ∧
        ∃ above line sign, "\n/* a */ \t#y".toList = above ++ line ++ sign ++ st.next.rest ∧
          EndsLine above ∧ '\n' ∉ line ∧ Lead line ∧ DirectiveSign sign ∧
            st.lexemes.getLast? = some ⟨.directive, sign⟩ := by
  have hm : (Cursor.start "\n/* a */ \t#y".toList).match? = some ⟨[], "\n/* a */ \t".toList,
      [⟨.directive, ['#']⟩], ['y'], .push .directive⟩ := by decide
  have hst := Cursor.step?_of_match (by simp [Cursor.start]) hm
  refine ⟨⟨[], .refl _⟩, rfl, _, hst, ⟨.directive, Or.inl rfl, rfl⟩, ?_⟩
  exact (directives_open_lines ⟨[], .refl _⟩ rfl hst).2 ⟨.directive, Or.inl rfl, rfl⟩

/-- Code between two comments does not keep a `#` behind them from beginning a
directive. -/
theorem directive_behind_code :
    ¬∀ (s : List Char) (c : Cursor) (st : Step) (above line sign : List Char),
      Cursor.Reaches s c → c.stack = [.root] → c.step? = some st → st.OpensDirective →
        s = above ++ line ++ sign ++ st.next.rest → EndsLine above → '\n' ∉ line →
          DirectiveSign sign →
            Blanks line ∨ ∃ w q v, line = w ++ q ++ v ∧ Blanks w ∧ ClosedComment q ∧ Blanks v := by
  intro h
  have hm : (Cursor.start "/*a*/x/*b*/#".toList).match? = some ⟨[], "/*a*/x/*b*/".toList,
      [⟨.directive, ['#']⟩], [], .push .directive⟩ := by decide
  have hst := Cursor.step?_of_match (by simp [Cursor.start]) hm
  rcases h "/*a*/x/*b*/#".toList _ _ [] "/*a*/x/*b*/".toList ['#'] ⟨[], .refl _⟩ rfl hst
    ⟨.directive, Or.inl rfl, rfl⟩ rfl (Or.inl rfl) (by decide) .hash with
    hblanks | ⟨w, q, v, hline, hw, hq, hv⟩
  · exact absurd (hblanks '/' (by simp)) (by decide)
  · -- The comment is all of the line, and its first end mark is the earlier one.
    obtain rfl : w = [] := by
      cases w with
      | nil => rfl
      | cons ch w =>
          obtain ⟨rfl, -⟩ := List.cons.inj hline
          exact absurd (hw '/' (List.mem_cons_self ..)) (by decide)
    obtain rfl : v = [] := by
      rcases List.eq_nil_or_concat v with rfl | ⟨v, ch, rfl⟩
      · rfl
      · have hlast := congrArg List.getLast? hline
        obtain rfl : '/' = ch := by simpa using hlast
        exact absurd (hv '/' (by simp)) (by decide)
    obtain rfl : "/*a*/x/*b*/".toList = q := by simpa using hline
    rcases hq with hq | hq
    · have hle := hq.least "/*a*/".toList (by decide) ⟨['a'], ['*', '/'], by simp, rfl⟩
      exact absurd hle (by decide)
    · exact absurd hq.holds.opens (by decide)

end GaussMarkup
