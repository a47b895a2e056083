import GaussMarkup.Proofs.Lexer.IncludeExtent

/-!
# Where a directive ends

`cutDirective?` reads a directive on its own, one character after the other: it
looks for the first line feed that no backslash precedes, or for a line comment,
which ends the directive with its line. A block comment is passed up to its first
end mark, with the line feeds in it; and so is what an include directive takes,
the rest of the line in which its lead ends, which need not be the line of the
directive. The lexer goes through a directive by stretches of text, comments,
included files, slashes and escaped line feeds, and each of these leaves the scan
where it would be without it (`Cursor.goesOn_or_endsHere`). By induction along the run
the lexer leaves directive mode where the scan ends.

Only behind the `#`, a comment, a slash or an escaped line feed does the lexer look
for an include. The scan calls such a place fresh.
-/

namespace GaussMarkup

/-! ## The scan of a directive -/

/-- What a directive passes in one at the start of a text: a file that it includes
or a block comment. -/
def cutInert? (fresh : Bool) (s : List Char) : Option Cut :=
  match if fresh then findInclude? s else none with
  | some m => some (m.text, m.rest)
  | none => cutInlineComment? s

/-- Cuts a directive behind its end, given the character in front of it. The next
`inert` characters are passed in any case. -/
def cutDirective? : (inert : Nat) → (fresh : Bool) → (before : Option Char) → List Char → Option Cut
  | _, _, _, [] => none
  | n + 1, _, _, ch :: s => (cutDirective? n true (some ch) s).map fun x => (ch :: x.1, x.2)
  | 0, fresh, before, ch :: s =>
    match cutInert? fresh (ch :: s) with
    | some x =>
      (cutDirective? (x.1.length - 1) true (some ch) s).map fun y => (ch :: y.1, y.2)
    | none =>
      match cutClosingComment? (ch :: s) with
      | some x => some x
      | none =>
        if ch = '\n' ∧ before ≠ some '\\' then some ([ch], s)
        else
          (cutDirective? 0 (ch == '/' || ch == '\n') (some ch) s).map fun x => (ch :: x.1, x.2)

/-- The kinds of lexemes that directives consist of. -/
def directiveKinds : List Kind :=
  [.directive, .directiveFile, .text, .blockComment, .lineComment]

/-- All lexemes are of a directive. -/
def Directed (ls : List Lexeme) : Prop :=
  ∀ l ∈ ls, l.kind ∈ directiveKinds

/-- What a directive passes in one: a block comment up to its first end mark, or,
at a fresh place, the word `include` with its lead and its file. -/
inductive Inert (s : List Char) : Bool → List Char → Prop
  | comment {fresh : Bool} {p : List Char} :
      Shortest (Encloses ['/', '*'] [['*', '/']]) s p → Inert s fresh p
  | file {word lead file rest : List Char} :
      word.map fold = "include".toList → Includes lead file rest →
        s = word ++ (lead ++ (file ++ rest)) → Inert s true (word ++ lead ++ file)

variable {s t p w : List Char} {ch : Char} {fresh : Bool} {before : Option Char}

/-! ## Comments in a directive -/

theorem cutInlineComment?_eq_none (hch : ch ≠ '/') (s : List Char) :
    cutInlineComment? (ch :: s) = none := by
  simp [cutInlineComment?, hch]

theorem cutClosingComment?_eq_none (hch : ch ≠ '/') (s : List Char) :
    cutClosingComment? (ch :: s) = none := by
  simp [cutClosingComment?, hch]

theorem cutClosingComment?_ne_nil {x : Cut} (h : cutClosingComment? s = some x) : x.1 ≠ [] := by
  unfold cutClosingComment? at h
  split at h
  · obtain rfl := Option.some.inj h
    exact List.cons_ne_nil _ _
  · cases h

/-- A block comment in a directive goes on to its first end mark. -/
theorem cutInlineComment?_eq_some {x : Cut} :
    cutInlineComment? s = some x ↔
      Shortest (Encloses ['/', '*'] [['*', '/']]) s x.1 ∧ s = x.1 ++ x.2 := by
  constructor
  · intro h
    refine ⟨?_, (joins_cutInlineComment? h).symm⟩
    unfold cutInlineComment? at h
    split at h
    · next t =>
      obtain ⟨y, hy, rfl⟩ := Option.map_eq_some_iff.mp h
      have hthrough := takesMarks_starSlash.shortest_cutThrough? t
      rw [hy] at hthrough
      exact hthrough.append (a := ['/', '*']) (fun _ _ hends => hends.opens)
        fun _ _ => encloses_append
    · cases h
  · rintro ⟨hshort, hs⟩
    obtain ⟨t, rfl⟩ := hshort.holds.opens.trans hshort.front
    obtain ⟨y, hy, hx⟩ := takesMarks_starSlash.exists_cutThrough? hshort
    have hjoin := joins_cutThrough? (joins_cutMark? _) hy
    rw [hx, ← hjoin, List.append_assoc] at hs
    have hrest : y.2 = x.2 := List.append_cancel_left (List.append_cancel_left hs)
    have hcut : cutInlineComment? (['/', '*'] ++ t) =
        (cutThrough? (cutMark? ['*', '/']) t).map fun y => (['/', '*'] ++ y.1, y.2) := rfl
    rw [hcut, hy]
    exact congrArg some (Prod.ext hx.symm hrest)

/-! ## What is passed in one -/

theorem findInclude?_eq_none (hi : fold ch ≠ 'i') (s : List Char) :
    findInclude? (ch :: s) = none := by
  simp [findInclude?, cutWord?, hi]

theorem cutInert?_of_no_include (h : findInclude? s = none) :
    cutInert? true s = cutInlineComment? s := by
  simp [cutInert?, h]

theorem cutInert?_of_comment (h : ['/', '*'] <+: s) (fresh : Bool) :
    cutInert? fresh s = cutInlineComment? s := by
  obtain ⟨t, rfl⟩ := h
  cases fresh with
  | false => rfl
  | true => exact cutInert?_of_no_include (findInclude?_eq_none (by decide) _)

theorem Inert.ne_nil (h : Inert s fresh p) : p ≠ [] := by
  cases h with
  | comment hshort =>
      obtain ⟨t, rfl⟩ := hshort.holds.opens
      simp
  | file _ hincludes _ => simp [hincludes.namesFile.ne_nil]

/-- The scan passes just what a directive may pass in one. -/
theorem cutInert?_eq_some {x : Cut} :
    cutInert? fresh s = some x ↔ Inert s fresh x.1 ∧ s = x.1 ++ x.2 := by
  constructor
  · intro h
    unfold cutInert? at h
    split at h
    · next m hfind =>
      obtain rfl := Option.some.inj h
      obtain rfl : fresh = true := by
        by_contra hnot
        rw [if_neg hnot] at hfind
        cases hfind
      obtain ⟨word, lead, file, rest, hword, rfl, hincludes, rfl⟩ :=
        findInclude?_eq_some.mp hfind
      simp only [Match.text_plain, textOf_append, textOf_lexemeOf]
      exact ⟨.file hword hincludes rfl, by simp⟩
    · obtain ⟨hshort, hs⟩ := cutInlineComment?_eq_some.mp h
      exact ⟨.comment hshort, hs⟩
  · obtain ⟨taken, left⟩ := x
    rintro ⟨hinert, hs⟩
    cases hinert with
    | comment hshort =>
        rw [cutInert?_of_comment (hshort.holds.opens.trans hshort.front)]
        exact cutInlineComment?_eq_some.mpr ⟨hshort, hs⟩
    | @file word lead file rest hword hincludes hsplit =>
        have hfind := findInclude?_eq_some.mpr
          ⟨word, lead, file, rest, hword, hsplit, hincludes, rfl⟩
        have hleft : word ++ lead ++ file ++ rest = word ++ lead ++ file ++ left := by
          refine Eq.trans ?_ hs
          simp [hsplit]
        obtain rfl := List.append_cancel_left hleft
        simp [cutInert?, hfind]

theorem split_of_cutInert? {x : Cut} (h : cutInert? fresh s = some x) :
    s = x.1 ++ x.2 ∧ x.1 ≠ [] := by
  obtain ⟨hinert, hs⟩ := cutInert?_eq_some.mp h
  exact ⟨hs, hinert.ne_nil⟩

/-! ## Stretches that the scan passes -/

theorem getLast?_or_cons (ch : Char) (taken : List Char) (before : Option Char) :
    taken.getLast?.or (some ch) = (ch :: taken).getLast?.or before := by
  rw [List.getLast?_cons]
  cases taken.getLast? <;> rfl

theorem cutDirective?_inert (taken s : List Char) (before : Option Char) :
    cutDirective? taken.length true before (taken ++ s) =
      (cutDirective? 0 true (taken.getLast?.or before) s).map
        fun x => (taken ++ x.1, x.2) := by
  induction taken generalizing before with
  | nil => simp
  | cons ch taken ih =>
      rw [List.cons_append, List.length_cons, cutDirective?, ih, getLast?_or_cons ch taken before,
        Option.map_map]
      rfl

/-- The scan of a directive that begins with `taken` is the scan of the rest. -/
def PassesDirective (before : Option Char) (taken s : List Char) : Prop :=
  cutDirective? 0 true before (taken ++ s) =
    (cutDirective? 0 true (taken.getLast?.or before) s).map fun x => (taken ++ x.1, x.2)

theorem passesDirective_inert {x : Cut} (h : cutInert? true s = some x) :
    s = x.1 ++ x.2 ∧ PassesDirective before x.1 x.2 := by
  obtain ⟨hs, hne⟩ := split_of_cutInert? h
  refine ⟨hs, ?_⟩
  obtain ⟨ch, t, hx⟩ := List.exists_cons_of_ne_nil hne
  have hcons : x.1 ++ x.2 = ch :: (t ++ x.2) := by rw [hx, List.cons_append]
  rw [PassesDirective, ← cutDirective?_inert]
  rw [hs, hcons] at h
  rw [hcons, cutDirective?, h]
  simp [hx, cutDirective?]

/-- Where nothing is passed in one and no line comment begins, the scan takes a
single character. -/
theorem cutDirective?_char (hinert : cutInert? fresh (ch :: s) = none)
    (hclosing : cutClosingComment? (ch :: s) = none) (hend : ¬(ch = '\n' ∧ before ≠ some '\\')) :
    cutDirective? 0 fresh before (ch :: s) =
      (cutDirective? 0 (ch == '/' || ch == '\n') (some ch) s).map
        fun x => (ch :: x.1, x.2) := by
  rw [cutDirective?, hinert, hclosing]
  simp only [if_neg hend]

/-- Characters that mean nothing to the scan of a directive, except at a fresh
place. -/
def isDirectiveText (ch : Char) : Bool :=
  ch != '/' && ch != '\n'

theorem cutInert?_of_not_fresh (hch : ch ≠ '/') (s : List Char) :
    cutInert? false (ch :: s) = none :=
  cutInlineComment?_eq_none hch s

theorem cutDirective?_text (hch : isDirectiveText ch = true)
    (hinert : cutInert? fresh (ch :: s) = none) :
    cutDirective? 0 fresh before (ch :: s) =
      (cutDirective? 0 false (some ch) s).map fun x => (ch :: x.1, x.2) := by
  obtain ⟨hslash, hfeed⟩ : ch ≠ '/' ∧ ch ≠ '\n' := by simpa [isDirectiveText] using hch
  rw [cutDirective?_char hinert (cutClosingComment?_eq_none hslash s) (fun h => hfeed h.1),
    beq_eq_false_iff_ne.mpr hslash, beq_eq_false_iff_ne.mpr hfeed]
  rfl

theorem cutDirective?_run {taken : List Char} (h : ∀ ch ∈ taken, isDirectiveText ch = true)
    (before : Option Char) (s : List Char) :
    cutDirective? 0 false before (taken ++ s) =
      (cutDirective? 0 false (taken.getLast?.or before) s).map fun x => (taken ++ x.1, x.2) := by
  induction taken generalizing before with
  | nil => simp
  | cons ch taken ih =>
      obtain ⟨hch, htaken⟩ := List.forall_mem_cons.mp h
      have hslash : ch ≠ '/' := by
        rintro rfl
        cases hch
      rw [List.cons_append, cutDirective?_text hch (cutInert?_of_not_fresh hslash _), ih htaken,
        getLast?_or_cons, Option.map_map]
      rfl

/-- In front of no text and of what ends a stretch of text, a place need not be
fresh. -/
theorem cutDirective?_fresh (h : ∀ ch ∈ s.head?, isDirectiveText ch = false)
    (before : Option Char) : cutDirective? 0 false before s = cutDirective? 0 true before s := by
  cases s with
  | nil => rfl
  | cons ch s =>
      have hi : fold ch ≠ 'i' := by
        have hch := h ch rfl
        simp only [isDirectiveText, Bool.and_eq_false_iff, bne_eq_false_iff_eq] at hch
        rcases hch with rfl | rfl <;> decide
      have hinert : cutInert? true (ch :: s) = cutInert? false (ch :: s) := by
        simp [cutInert?, findInclude?_eq_none hi]
      rw [cutDirective?, cutDirective?, hinert]

/-- A stretch of text up to a slash or a line feed. -/
theorem passesDirective_text {taken : List Char} (hne : taken ≠ [])
    (h : ∀ ch ∈ taken, isDirectiveText ch = true) (hs : ∀ ch ∈ s.head?, isDirectiveText ch = false)
    (hinert : cutInert? true (taken ++ s) = none) : PassesDirective before taken s := by
  obtain ⟨ch, taken, rfl⟩ := List.exists_cons_of_ne_nil hne
  obtain ⟨hch, htaken⟩ := List.forall_mem_cons.mp h
  rw [List.cons_append] at hinert
  rw [PassesDirective, List.cons_append, cutDirective?_text hch hinert, cutDirective?_run htaken,
    cutDirective?_fresh hs, getLast?_or_cons, Option.map_map]
  rfl

theorem directed_lexemeOf {kind : Kind} (h : kind ∈ directiveKinds) (text : List Char) :
    Directed (lexemeOf kind text) := by
  unfold lexemeOf
  split
  · exact List.forall_mem_nil _
  · exact List.forall_mem_singleton.mpr h

namespace Cursor

variable {c : Cursor}

/-! ## Steps in a directive -/

/-- The next match in a directive takes a stretch that the scan passes. -/
def GoesOn (c : Cursor) : Prop :=
  ∃ ls s, Directed ls ∧ c.rest = textOf ls ++ s ∧ c.match? = some (.plain ls s .stay) ∧
    PassesDirective c.before (textOf ls) s

/-- The next match in a directive is where the scan ends. -/
def EndsHere (c : Cursor) : Prop :=
  ∃ ls s, Directed ls ∧ c.match? = some (.plain ls s .pop) ∧
    cutDirective? 0 true c.before c.rest = some (textOf ls, s)

theorem goesOn_of_findInclude? {m : Match} (hmode : c.mode = .directive)
    (h : findInclude? c.rest = some m) : c.GoesOn := by
  have hinert : cutInert? true c.rest = some (m.text, m.rest) := by simp [cutInert?, h]
  obtain ⟨hs, hpasses⟩ := passesDirective_inert hinert
  have hm : c.match? = some m := by
    rw [match?_eq_firstMatch?, hmode, Mode.rules]
    exact firstMatch?_of_some _ h (advancesBy_of_text_ne_nil (split_of_cutInert? hinert).2)
  obtain ⟨word, lead, file, rest, -, -, -, rfl⟩ := findInclude?_eq_some.mp h
  rw [Match.text_plain] at hs hpasses
  refine ⟨_, rest, ?_, hs, hm, hpasses⟩
  refine List.forall_mem_append.mpr ⟨List.forall_mem_append.mpr ⟨?_, ?_⟩, ?_⟩
  · exact directed_lexemeOf (by decide) _
  · exact directed_lexemeOf (by decide) _
  · exact directed_lexemeOf (by decide) _

section Scans

variable {rule : Rule} {rules : List Rule} {kind : Kind} {scan : List Char → Option Cut} {x : Cut}
  (hmatch : c.match? = c.firstMatch? (rule :: rules))
  (hkind : kind ∈ directiveKinds)
  (hscan : scan c.rest = some x) (hne : x.1 ≠ [])

include hmatch hkind hscan hne

theorem goesOn_of_scan
    (hfind : rule.find? c.before c.rest =
      (scan c.rest).map fun x => .plain (lexemeOf kind x.1) x.2 .stay)
    (hjoin : c.rest = x.1 ++ x.2) (hpasses : PassesDirective c.before x.1 x.2) : c.GoesOn := by
  have htext : textOf [⟨kind, x.1⟩] = x.1 := by simp
  refine ⟨[⟨kind, x.1⟩], x.2, List.forall_mem_singleton.mpr hkind, by rw [htext]; exact hjoin,
    hmatch.trans (firstMatch?_of_scan rules hfind hscan hne), ?_⟩
  rw [htext]
  exact hpasses

theorem endsHere_of_scan
    (hfind : rule.find? c.before c.rest =
      (scan c.rest).map fun x => .plain (lexemeOf kind x.1) x.2 .pop)
    (hend : cutDirective? 0 true c.before c.rest = some x) : c.EndsHere := by
  refine ⟨[⟨kind, x.1⟩], x.2, List.forall_mem_singleton.mpr hkind,
    hmatch.trans (firstMatch?_of_scan rules hfind hscan hne), ?_⟩
  rw [hend]
  simp

end Scans

section Cases

variable {s : List Char} (hmode : c.mode = .directive) (hinclude : findInclude? c.rest = none)

include hmode hinclude

theorem match?_of_no_include : c.match? = c.firstMatch? (Mode.directive.rules.drop 1) := by
  rw [match?_eq_firstMatch?, hmode]
  exact firstMatch?_of_none _ (by simp [Rule.includeFile, hinclude])

theorem goesOn_of_text {ch : Char} (hrest : c.rest = ch :: s) (hch : isDirectiveText ch = true) :
    c.GoesOn := by
  have hslash : ch ≠ '/' := by
    rintro rfl
    cases hch
  have hinert : cutInert? true c.rest = none := by
    rw [cutInert?_of_no_include hinclude, hrest, cutInlineComment?_eq_none hslash]
  have hne : c.rest.takeWhile isDirectiveText ≠ [] := by simp [hrest, hch]
  have hscan : cutRun? isDirectiveText c.rest =
      some (c.rest.takeWhile isDirectiveText, c.rest.dropWhile isDirectiveText) :=
    cutRun?_eq_some.mpr ⟨hne, rfl⟩
  have hjoin := (List.takeWhile_append_dropWhile (p := isDirectiveText) (l := c.rest)).symm
  refine goesOn_of_scan (match?_of_no_include hmode hinclude) (by decide) hscan hne rfl hjoin
    (passesDirective_text hne (List.all_eq_true.mp List.all_takeWhile) ?_ (hjoin ▸ hinert))
  intro d hd
  have hhead := List.head?_dropWhile_not isDirectiveText c.rest
  rw [hd] at hhead
  exact hhead

theorem match?_of_slash (hrest : c.rest = '/' :: s) :
    c.match? = c.firstMatch? (Mode.directive.rules.drop 2) := by
  rw [match?_of_no_include hmode hinclude]
  refine firstMatch?_of_none _ ?_
  simp [Rule.directiveText, Rule.one, hrest, cutRun?]

/-- A slash opens a block comment or a line comment, or is part of the directive. -/
theorem goesOn_or_endsHere_of_slash (hrest : c.rest = '/' :: s) : c.GoesOn ∨ c.EndsHere := by
  have hmatch := match?_of_slash hmode hinclude hrest
  have hinert := cutInert?_of_no_include hinclude
  cases hinline : cutInlineComment? c.rest with
  | some x =>
      rw [hinline] at hinert
      obtain ⟨hjoin, hne⟩ := split_of_cutInert? hinert
      exact Or.inl (goesOn_of_scan hmatch (by decide) hinline hne rfl hjoin
        (passesDirective_inert hinert).2)
  | none =>
      rw [hinline, hrest] at hinert
      have hcomment : Rule.inlineComment.find? c.before c.rest = none := by
        simp [Rule.inlineComment, Rule.one, hinline]
      replace hmatch := hmatch.trans (firstMatch?_of_none _ hcomment)
      cases hclosing : cutClosingComment? c.rest with
      | some x =>
          refine Or.inr (endsHere_of_scan hmatch (by decide) hclosing
            (cutClosingComment?_ne_nil hclosing) rfl ?_)
          rw [hrest] at hclosing ⊢
          rw [cutDirective?, hinert, hclosing]
      | none =>
          have hline : Rule.closingComment.find? c.before c.rest = none := by
            simp [Rule.closingComment, Rule.one, hclosing]
          replace hmatch := hmatch.trans (firstMatch?_of_none _ hline)
          have hscan : cutMark? ['/'] c.rest = some (['/'], s) := cutMark?_eq_some.mpr ⟨rfl, hrest⟩
          rw [hrest] at hclosing
          refine Or.inl (goesOn_of_scan hmatch (by decide) hscan (by simp) rfl hrest ?_)
          exact cutDirective?_char hinert hclosing (by simp)

theorem goesOn_or_endsHere_of_lineFeed (hrest : c.rest = '\n' :: s) : c.GoesOn ∨ c.EndsHere := by
  have hinert : cutInert? true ('\n' :: s) = none := by
    rw [← hrest, cutInert?_of_no_include hinclude, hrest, cutInlineComment?_eq_none (by decide)]
  have hclosing : cutClosingComment? ('\n' :: s) = none :=
    cutClosingComment?_eq_none (by decide) s
  have hscan : cutMark? ['\n'] c.rest = some (['\n'], s) := cutMark?_eq_some.mpr ⟨rfl, hrest⟩
  have hmatch : c.match? = c.firstMatch? [.directiveContinuation, .directiveEnd] := by
    rw [match?_of_no_include hmode hinclude]
    have htext : Rule.directiveText.find? c.before c.rest = none := by
      simp [Rule.directiveText, Rule.one, hrest, cutRun?]
    have hcomment : Rule.inlineComment.find? c.before c.rest = none := by
      simp [Rule.inlineComment, Rule.one, hrest, cutInlineComment?_eq_none]
    have hline : Rule.closingComment.find? c.before c.rest = none := by
      simp [Rule.closingComment, Rule.one, hrest, hclosing]
    have hslash : Rule.directiveSlash.find? c.before c.rest = none := by
      have hmark := cutMark?_cons_eq_none s [] (show '\n' ≠ '/' by decide)
      simp [Rule.directiveSlash, Rule.one, hrest, hmark]
    exact (firstMatch?_of_none _ htext).trans <| (firstMatch?_of_none _ hcomment).trans <|
      (firstMatch?_of_none _ hline).trans (firstMatch?_of_none _ hslash)
  by_cases hescaped : c.before = some '\\'
  · obtain ⟨scan, hcontinued, hfind⟩ : ∃ scan : List Char → Option Cut,
        scan c.rest = some (['\n'], s) ∧ Rule.directiveContinuation.find? c.before c.rest =
          (scan c.rest).map fun x => .plain (lexemeOf .directive x.1) x.2 .stay :=
      ⟨fun t => (cutMark? ['\n'] t).filter fun x =>
        (Guard.precededBy '\\').admits c.before x.1 x.2,
        by simp [hscan, Guard.admits, hescaped], rfl⟩
    refine Or.inl (goesOn_of_scan hmatch (by decide) hcontinued (by simp) hfind hrest ?_)
    exact cutDirective?_char hinert hclosing (fun h => h.2 hescaped)
  · have hcontinuation : Rule.directiveContinuation.find? c.before c.rest = none := by
      simp [Rule.directiveContinuation, Rule.guarded, hscan, Guard.admits, hescaped]
    refine Or.inr (endsHere_of_scan (hmatch.trans (firstMatch?_of_none _ hcontinuation)) (by decide)
      hscan (by simp) rfl ?_)
    rw [hrest, cutDirective?, hinert, hclosing]
    exact if_pos ⟨rfl, hescaped⟩

end Cases

theorem goesOn_or_endsHere (hmode : c.mode = .directive) (hrest : c.rest ≠ []) :
    c.GoesOn ∨ c.EndsHere := by
  cases hinclude : findInclude? c.rest with
  | some m => exact Or.inl (goesOn_of_findInclude? hmode hinclude)
  | none =>
      obtain ⟨ch, s, hs⟩ := List.exists_cons_of_ne_nil hrest
      cases hch : isDirectiveText ch with
      | true => exact Or.inl (goesOn_of_text hmode hinclude hs hch)
      | false =>
          simp only [isDirectiveText, Bool.and_eq_false_iff, bne_eq_false_iff_eq] at hch
          rcases hch with rfl | rfl
          · exact goesOn_or_endsHere_of_slash hmode hinclude hs
          · exact goesOn_or_endsHere_of_lineFeed hmode hinclude hs

/-! ## Runs through a directive -/

theorem before_behind_plain (c : Cursor) (ls : List Lexeme) (s : List Char) (move : Move) :
    (c.behind (.plain ls s move)).before = (textOf ls).getLast?.or c.before := by
  simp [behind, lastTaken, Match.plain, Match.text]

/-- In a directive the lexer goes to where the scan ends, and leaves directive mode
there. -/
theorem exists_run_of_cutDirective? {x : Cut} (hstack : c.stack = [.directive, .root])
    (hscan : cutDirective? 0 true c.before c.rest = some x) :
    ∃ ls d, Run c ls d ∧ Directed ls ∧ textOf ls = x.1 ∧ d.rest = x.2 ∧ d.stack = [.root] := by
  induction c using step_induction generalizing x with
  | h c _ next =>
      have hrest : c.rest ≠ [] := by
        intro hnil
        rw [hnil] at hscan
        cases hscan
      rcases goesOn_or_endsHere (mode_of_stack hstack) hrest with
        ⟨ls, s, hls, hs, hm, hpasses⟩ | ⟨ls, s, hls, hm, hend⟩
      · have hst := step?_of_plain hrest hm
        rw [hs, hpasses, ← before_behind_plain c ls s .stay] at hscan
        obtain ⟨y, hy, rfl⟩ := Option.map_eq_some_iff.mp hscan
        obtain ⟨ls', d, hrun, hls', htext, hd, hroot⟩ := next _ hst hstack hy
        refine ⟨_, d, .step hst hrun, ?_, by simp [htext], hd, hroot⟩
        exact List.forall_mem_append.mpr ⟨hls, hls'⟩
      · obtain rfl := Option.some.inj (hend.symm.trans hscan)
        refine ⟨ls, _, .single (step?_of_plain hrest hm), hls, rfl, rfl, ?_⟩
        simp [behind, Match.plain, hstack, Move.apply]

/-- A directive without an end takes the rest of the text. -/
theorem directed_of_cutDirective?_eq_none (hstack : c.stack = [.directive, .root])
    (hscan : cutDirective? 0 true c.before c.rest = none) :
    Directed c.lexemes ∧ c.finalStack = [.directive, .root] := by
  induction c using step_induction with
  | h c _ next =>
      by_cases hrest : c.rest = []
      · rw [lexemes_of_nil hrest, finalStack_of_nil hrest]
        exact ⟨List.forall_mem_nil _, hstack⟩
      rcases goesOn_or_endsHere (mode_of_stack hstack) hrest with
        ⟨ls, s, hls, hs, hm, hpasses⟩ | ⟨ls, s, -, -, hend⟩
      · have hst := step?_of_plain hrest hm
        rw [hs, hpasses, ← before_behind_plain c ls s .stay, Option.map_eq_none_iff] at hscan
        obtain ⟨hdirected, hfinal⟩ := next _ hst hstack hscan
        rw [lexemes_of_step? hst, finalStack_of_step? hst]
        exact ⟨List.forall_mem_append.mpr ⟨hls, hdirected⟩, hfinal⟩
      · rw [hscan] at hend
        cases hend

end Cursor

/-- **Directives end with a line.** From any step of a directive on, the lexer goes
by lexemes of directives to the end that the scan finds, and is in root mode behind
it: at the first line feed that no backslash precedes, or behind the line of a line
comment. Just block comments and what an include takes are passed with the line
feeds in them. Where the scan finds no end, the directive takes the rest of the
text. -/
theorem directives_end_with_line {c : Cursor} (hstack : c.stack = [.directive, .root]) :
    (∀ x, cutDirective? 0 true c.before c.rest = some x →
      ∃ ls d, c.Run ls d ∧ Directed ls ∧ textOf ls = x.1 ∧ d.rest = x.2 ∧ d.stack = [.root]) ∧
      (cutDirective? 0 true c.before c.rest = none →
        Directed c.lexemes ∧ c.finalStack = [.directive, .root]) ∧
      (∀ fresh s x, cutInert? fresh s = some x ↔ Inert s fresh x.1 ∧ s = x.1 ++ x.2) :=
  ⟨fun _ => Cursor.exists_run_of_cutDirective? hstack,
    Cursor.directed_of_cutDirective?_eq_none hstack, fun _ _ _ => cutInert?_eq_some⟩

/-- A comment over two lines, a continued line, and a line comment, which ends the
directive although a backslash precedes its line feed. -/
theorem directives_end_with_line_comments :
    cutDirective? 0 true (some '#') "define A /* x\n */ \\\n1 // y \\\nz".toList =
        some ("define A /* x\n */ \\\n1 // y \\\n".toList, ['z']) ∧
      ∃ ls d, Cursor.Run ⟨some '#', [.directive, .root],
          "define A /* x\n */ \\\n1 // y \\\nz".toList⟩ ls d ∧ Directed ls ∧
        textOf ls = "define A /* x\n */ \\\n1 // y \\\n".toList ∧ d.rest = ['z'] ∧
          d.stack = [.root] := by
  have hscan : cutDirective? 0 true (some '#') "define A /* x\n */ \\\n1 // y \\\nz".toList =
      some ("define A /* x\n */ \\\n1 // y \\\n".toList, ['z']) := by decide
  exact ⟨hscan, (directives_end_with_line
    (c := ⟨some '#', [.directive, .root], _⟩) rfl).1 _ hscan⟩

/-- An include that names no file in its own line takes the next line. -/
theorem include_takes_next_line :
    ¬∀ (s : List Char) (c : Cursor) (body rest : List Char), Cursor.Reaches s c →
      c.stack = [.directive, .root] → c.before = some '#' → c.rest = body ++ '\n' :: rest →
        '\n' ∉ body → '/' ∉ body → body.getLast? ≠ some '\\' →
          ∃ ls d, c.Run ls d ∧ textOf ls = body ++ ['\n'] ∧ d.stack = [.root] := by
  intro h
  have hopens : (Cursor.start "#include\nx".toList).match? =
      some ⟨[], [], [⟨.directive, ['#']⟩], "include\nx".toList, .push .directive⟩ := by decide
  have hreach : Cursor.Reaches "#include\nx".toList
      ⟨some '#', [.directive, .root], "include\nx".toList⟩ :=
    ⟨_, .single (Cursor.step?_of_match (by simp [Cursor.start]) hopens)⟩
  obtain ⟨ls, d, hrun, htext, -⟩ := h _ _ "include".toList ['x'] hreach rfl rfl rfl (by decide)
    (by decide) (by decide)
  have hm : (⟨some '#', [.directive, .root], "include\nx".toList⟩ : Cursor).match? =
      some (.plain [⟨.directive, "include".toList⟩, ⟨.text, ['\n']⟩, ⟨.directiveFile, ['x']⟩] []
        .stay) := by decide
  have hst := Cursor.step?_of_plain (by simp) hm
  -- The first step already takes more than the line.
  cases hrun with
  | refl => simp at htext
  | step hstep hrun =>
      obtain rfl := Option.some.inj (hst.symm.trans hstep)
      have hlength := congrArg List.length htext
      simp at hlength

end GaussMarkup
