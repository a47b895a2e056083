import GaussMarkup.Proofs.Lexer.RootRules
import GaussMarkup.Proofs.Lexer.Run

/-!
# Where a string ends

`cutString?` reads a string on its own: it looks for the first quote that no
backslash skips. The lexer goes through a string by escapes of five shapes,
stretches of plain text and backslashes that escape nothing. Each of these leaves
the scan where it would be without it (`Cursor.quote_or_passesOn`): an escape
holds no quote or backslash behind the character it begins with, and a backslash
that escapes nothing is followed by neither. By induction along the run the lexer
leaves string mode behind the quote that the scan finds.
-/

namespace GaussMarkup

/-- Cuts a string behind its closing quote, given the text behind its opening
one. A backslash always skips the character behind it; `skips` says whether the
first character is skipped. -/
def cutString? : (skips : Bool) → List Char → Option Cut
  | _, [] => none
  | true, ch :: s => (cutString? false s).map fun x => (ch :: x.1, x.2)
  | false, ch :: s =>
    if ch = '"' then some ([ch], s)
    else (cutString? (ch == '\\') s).map fun x => (ch :: x.1, x.2)

/-- Strings consist of lexemes of these two kinds. -/
def Stringy (ls : List Lexeme) : Prop :=
  ∀ l ∈ ls, l.kind = .string ∨ l.kind = .stringEscape

/-- Characters that mean nothing to the scan of a string. -/
def isStringText (ch : Char) : Bool :=
  ch != '\\' && ch != '"'

theorem isStringText_iff {ch : Char} : isStringText ch = true ↔ ch ≠ '\\' ∧ ch ≠ '"' := by
  simp [isStringText]

theorem cutString?_backslash (s : List Char) :
    cutString? false ('\\' :: s) = (cutString? true s).map fun x => ('\\' :: x.1, x.2) := rfl

theorem cutString?_text {ch : Char} (hch : isStringText ch = true) (skips : Bool)
    (s : List Char) :
    cutString? skips (ch :: s) = (cutString? false s).map fun x => (ch :: x.1, x.2) := by
  obtain ⟨hslash, hquote⟩ := isStringText_iff.mp hch
  cases skips with
  | true => rfl
  | false => rw [cutString?, if_neg hquote, beq_eq_false_iff_ne.mpr hslash]

/-! ## Stretches that the scan passes -/

/-- The scan of a string that begins with `taken` is the scan of the rest. -/
def PassesString (taken s : List Char) : Prop :=
  cutString? false (taken ++ s) = (cutString? false s).map fun x => (taken ++ x.1, x.2)

theorem passesString_of_all {taken : List Char} (h : ∀ ch ∈ taken, isStringText ch = true)
    (s : List Char) : PassesString taken s := by
  induction taken with
  | nil => simp [PassesString]
  | cons ch taken ih =>
      obtain ⟨hch, htaken⟩ := List.forall_mem_cons.mp h
      rw [PassesString, List.cons_append, cutString?_text hch, ih htaken, Option.map_map]
      rfl

/-- A backslash, what it skips, and a stretch without quotes and backslashes. -/
theorem passesString_escape (ch : Char) {taken : List Char}
    (h : ∀ d ∈ taken, isStringText d = true) (s : List Char) :
    PassesString ('\\' :: ch :: taken) s := by
  rw [PassesString, List.cons_append, List.cons_append, cutString?_backslash, cutString?,
    passesString_of_all h s, Option.map_map, Option.map_map]
  rfl

/-- A backslash does not matter in front of a character that is skipped anyway. -/
theorem passesString_backslash {s : List Char} (h : ∀ ch ∈ s.head?, isStringText ch = true) :
    PassesString ['\\'] s := by
  have hskip : cutString? true s = cutString? false s := by
    cases s with
    | nil => rfl
    | cons ch s =>
        have hch := h ch rfl
        rw [cutString?_text hch, cutString?_text hch]
  rw [PassesString, List.cons_append, List.nil_append, cutString?_backslash, hskip]
  rfl

/-! ## Escapes -/

theorem isStringText_of {p : Char → Bool} (hslash : p '\\' = false) (hquote : p '"' = false)
    {ch : Char} (h : p ch = true) : isStringText ch = true := by
  refine isStringText_iff.mpr ⟨?_, ?_⟩
  · rintro rfl
    rw [hslash] at h
    cases h
  · rintro rfl
    rw [hquote] at h
    cases h

theorem cutBetween?_eq_some {p : Char → Bool} {least most : Nat} {s : List Char} {x : Cut}
    (h : cutBetween? p least most s = some x) :
    (∀ ch ∈ x.1, p ch = true) ∧ least ≤ x.1.length := by
  simp only [cutBetween?] at h
  split at h
  · next hleast =>
    obtain rfl := Option.some.inj h
    exact ⟨List.all_eq_true.mp List.all_takeWhile, hleast⟩
  · cases h

/-- An escape is one character behind its backslash, with digits behind that. -/
theorem cutEscapeBody?_eq_some {s : List Char} {x : Cut} (h : cutEscapeBody? s = some x) :
    ∃ ch digits, x.1 = ch :: digits ∧ ∀ d ∈ digits, isStringText d = true := by
  unfold cutEscapeBody? at h
  split at h
  · cases h
  · next ch t =>
    split at h
    · obtain rfl := Option.some.inj h
      exact ⟨ch, [], rfl, List.forall_mem_nil _⟩
    split at h
    · obtain ⟨y, hy, rfl⟩ := Option.map_eq_some_iff.mp h
      refine ⟨ch, y.1, rfl, fun d hd => isStringText_of (p := isHexDigit) rfl rfl ?_⟩
      exact (cutBetween?_eq_some hy).1 d hd
    split at h
    · obtain ⟨y, hy, rfl⟩ := Option.map_eq_some_iff.mp h
      refine ⟨ch, y.1, rfl, fun d hd => isStringText_of (p := isHexDigit) rfl rfl ?_⟩
      exact (cutBetween?_eq_some hy).1 d hd
    · obtain ⟨hdigits, hleast⟩ := cutBetween?_eq_some h
      obtain ⟨d, digits, hx⟩ := List.exists_cons_of_length_pos hleast
      rw [hx] at hdigits
      refine ⟨d, digits, hx, fun e he => isStringText_of (p := isOctalDigit) rfl rfl ?_⟩
      exact hdigits e (List.mem_cons_of_mem _ he)

/-- Quotes and backslashes are always escaped by a backslash. -/
theorem head?_of_cutEscapeBody?_eq_none {s : List Char} (h : cutEscapeBody? s = none) :
    ∀ ch ∈ s.head?, isStringText ch = true := by
  intro ch hch
  obtain ⟨t, rfl⟩ := List.head?_eq_some_iff.mp hch
  unfold cutEscapeBody? at h
  split at h
  · next heq => cases heq
  · next d u heq =>
    obtain ⟨rfl, rfl⟩ := List.cons.inj heq
    split at h
    · cases h
    · next hescape =>
      refine isStringText_iff.mpr ⟨?_, ?_⟩
      · rintro rfl
        exact hescape (by decide)
      · rintro rfl
        exact hescape (by decide)

namespace Cursor

variable {c : Cursor}

/-! ## Steps in a string -/

/-- The next match in a string takes a stretch that the scan passes. -/
def PassesOn (c : Cursor) : Prop :=
  ∃ kind taken s, (kind = .string ∨ kind = .stringEscape) ∧ c.rest = taken ++ s ∧
    c.match? = some (.plain [⟨kind, taken⟩] s .stay) ∧ PassesString taken s

theorem match?_of_quote {s : List Char} (hmode : c.mode = .string) (hrest : c.rest = '"' :: s) :
    c.match? = some (.plain [⟨.string, ['"']⟩] s .pop) := by
  have hscan : cutMark? ['"'] c.rest = some (['"'], s) := cutMark?_eq_some.mpr ⟨rfl, hrest⟩
  rw [match?_eq_firstMatch?, hmode]
  exact firstMatch?_of_scan _ rfl hscan (by simp)

theorem passesOn_of_scan {rule : Rule} {rules : List Rule} {kind : Kind}
    {scan : List Char → Option Cut} {x : Cut} (hmatch : c.match? = c.firstMatch? (rule :: rules))
    (hfind : rule.find? c.before c.rest =
      (scan c.rest).map fun x => .plain (lexemeOf kind x.1) x.2 .stay)
    (hkind : kind = .string ∨ kind = .stringEscape) (hscan : scan c.rest = some x)
    (hjoin : c.rest = x.1 ++ x.2) (hne : x.1 ≠ []) (hpasses : PassesString x.1 x.2) :
    c.PassesOn :=
  ⟨kind, x.1, x.2, hkind, hjoin, hmatch.trans (firstMatch?_of_scan rules hfind hscan hne), hpasses⟩

/-- Behind a backslash there is an escape, a line feed, or a character that the
scan would pass anyway. -/
theorem passesOn_of_backslash {s : List Char} (hmode : c.mode = .string)
    (hrest : c.rest = '\\' :: s) : c.PassesOn := by
  have hend : Rule.stringEnd.find? c.before c.rest = none := by
    simp [Rule.stringEnd, Rule.one, hrest,
      cutMark?_cons_eq_none s [] (show '\\' ≠ '"' by decide)]
  have hmatch := match?_eq_firstMatch? c
  rw [hmode, Mode.rules, firstMatch?_of_none _ hend] at hmatch
  cases hbody : cutEscapeBody? s with
  | some x =>
      have hscan : cutEscape? c.rest = some ('\\' :: x.1, x.2) := by
        simp [hrest, cutEscape?, hbody]
      have hjoin : c.rest = '\\' :: x.1 ++ x.2 := by
        rw [hrest, List.cons_append, joins_cutEscapeBody? hbody]
      obtain ⟨d, digits, hx, hdigits⟩ := cutEscapeBody?_eq_some hbody
      refine passesOn_of_scan hmatch rfl (Or.inr rfl) hscan hjoin (List.cons_ne_nil _ _) ?_
      rw [hx]
      exact passesString_escape d hdigits x.2
  | none =>
      have hescape : Rule.stringEscape.find? c.before c.rest = none := by
        simp [Rule.stringEscape, Rule.one, hrest, cutEscape?, hbody]
      have htext : Rule.stringText.find? c.before c.rest = none := by
        simp [Rule.stringText, Rule.one, hrest, cutRun?]
      rw [firstMatch?_of_none _ hescape, firstMatch?_of_none _ htext] at hmatch
      cases hcontinuation : cutContinuation? c.rest with
      | some x =>
          obtain ⟨hx, hjoin⟩ := cutMark?_eq_some.mp hcontinuation
          rw [← hx] at hjoin
          refine passesOn_of_scan hmatch rfl (Or.inl rfl) hcontinuation hjoin (by simp [hx]) ?_
          rw [hx]
          exact passesString_escape '\n' (List.forall_mem_nil _) x.2
      | none =>
          have hfeed : Rule.stringContinuation.find? c.before c.rest = none := by
            simp [Rule.stringContinuation, Rule.one, hcontinuation]
          rw [firstMatch?_of_none _ hfeed] at hmatch
          have hscan : cutMark? ['\\'] c.rest = some (['\\'], s) :=
            cutMark?_eq_some.mpr ⟨rfl, hrest⟩
          -- Neither a quote nor a backslash follows: these are escaped by any backslash.
          exact passesOn_of_scan hmatch rfl (Or.inl rfl) hscan hrest (List.cons_ne_nil _ _)
            (passesString_backslash (head?_of_cutEscapeBody?_eq_none hbody))

theorem passesOn_of_text {ch : Char} {s : List Char} (hmode : c.mode = .string)
    (hrest : c.rest = ch :: s) (hch : isStringText ch = true) : c.PassesOn := by
  obtain ⟨hslash, hquote⟩ := isStringText_iff.mp hch
  have hend : Rule.stringEnd.find? c.before c.rest = none := by
    simp [Rule.stringEnd, Rule.one, hrest, cutMark?_cons_eq_none s [] hquote]
  have hescape : Rule.stringEscape.find? c.before c.rest = none := by
    simp [Rule.stringEscape, Rule.one, hrest, cutEscape?, hslash]
  have hmatch := match?_eq_firstMatch? c
  rw [hmode, Mode.rules, firstMatch?_of_none _ hend, firstMatch?_of_none _ hescape] at hmatch
  have hne : c.rest.takeWhile isStringText ≠ [] := by simp [hrest, hch]
  have hscan : cutRun? isStringText c.rest =
      some (c.rest.takeWhile isStringText, c.rest.dropWhile isStringText) :=
    cutRun?_eq_some.mpr ⟨hne, rfl⟩
  exact passesOn_of_scan hmatch rfl (Or.inl rfl) hscan List.takeWhile_append_dropWhile.symm hne
    (passesString_of_all (List.all_eq_true.mp List.all_takeWhile) _)

theorem quote_or_passesOn (hmode : c.mode = .string) (hrest : c.rest ≠ []) :
    (∃ s, c.rest = '"' :: s) ∨ c.PassesOn := by
  obtain ⟨ch, s, hs⟩ := List.exists_cons_of_ne_nil hrest
  by_cases hquote : ch = '"'
  · subst hquote
    exact Or.inl ⟨s, hs⟩
  by_cases hslash : ch = '\\'
  · subst hslash
    exact Or.inr (passesOn_of_backslash hmode hs)
  · exact Or.inr (passesOn_of_text hmode hs (isStringText_iff.mpr ⟨hslash, hquote⟩))

/-! ## Runs through a string -/

theorem stringy_singleton {kind : Kind} (h : kind = .string ∨ kind = .stringEscape)
    (text : List Char) : Stringy [⟨kind, text⟩] :=
  List.forall_mem_singleton.mpr h

/-- In a string the lexer goes to the quote that the scan finds, and leaves
string mode behind it. -/
theorem exists_run_of_cutString? {x : Cut} (hstack : c.stack = [.string, .root])
    (hscan : cutString? false c.rest = some x) :
    ∃ ls d, Run c ls d ∧ Stringy ls ∧ textOf ls = x.1 ∧ d.rest = x.2 ∧ d.stack = [.root] := by
  induction c using step_induction generalizing x with
  | h c _ next =>
      have hmode := mode_of_stack hstack
      have hrest : c.rest ≠ [] := by
        intro hnil
        rw [hnil] at hscan
        cases hscan
      rcases quote_or_passesOn hmode hrest with ⟨s, hs⟩ | ⟨kind, taken, s, hkind, hs, hm, hpasses⟩
      · rw [hs, cutString?, if_pos rfl] at hscan
        obtain rfl := Option.some.inj hscan
        have hst := step?_of_plain hrest (match?_of_quote hmode hs)
        exact ⟨_, _, .single hst, stringy_singleton (Or.inl rfl) _, rfl, rfl,
          by simp [behind, Match.plain, hstack, Move.apply]⟩
      · have hst := step?_of_plain hrest hm
        rw [hs, hpasses] at hscan
        obtain ⟨y, hy, rfl⟩ := Option.map_eq_some_iff.mp hscan
        obtain ⟨ls, d, hrun, hstringy, htext, hbehind, hroot⟩ := next _ hst hstack hy
        refine ⟨_, d, .step hst hrun, ?_, by simp [htext], hbehind, hroot⟩
        exact List.forall_mem_append.mpr ⟨stringy_singleton hkind _, hstringy⟩

/-- A string that is not closed takes the rest of the text. -/
theorem stringy_of_cutString?_eq_none (hstack : c.stack = [.string, .root])
    (hscan : cutString? false c.rest = none) :
    Stringy c.lexemes ∧ c.finalStack = [.string, .root] := by
  induction c using step_induction with
  | h c _ next =>
      by_cases hrest : c.rest = []
      · rw [lexemes_of_nil hrest, finalStack_of_nil hrest]
        exact ⟨List.forall_mem_nil _, hstack⟩
      rcases quote_or_passesOn (mode_of_stack hstack) hrest with
        ⟨s, hs⟩ | ⟨kind, taken, s, hkind, hs, hm, hpasses⟩
      · rw [hs] at hscan
        cases hscan
      · have hst := step?_of_plain hrest hm
        rw [hs, hpasses, Option.map_eq_none_iff] at hscan
        obtain ⟨hstringy, hfinal⟩ := next _ hst hstack hscan
        rw [lexemes_of_step? hst, finalStack_of_step? hst]
        exact ⟨List.forall_mem_append.mpr ⟨stringy_singleton hkind _, hstringy⟩, hfinal⟩

end Cursor

theorem Mode.rootRulesOn_quote : rootRulesOn '"' = [.stringStart, .other] := rfl

/-- **Strings end at their closing quote.** Where the lexer stands in root mode in
front of a quote, it goes by lexemes of strings to the first quote that no
backslash skips, over any number of lines, and is back in root mode behind it.
Where there is none, the rest of the text is a string, and string mode is open
at its end. -/
theorem strings_end_at_closing_quote {c : Cursor} {s : List Char} (hstack : c.stack = [.root])
    (hrest : c.rest = '"' :: s) :
    (∀ x, cutString? false s = some x →
      ∃ ls d, c.Run ls d ∧ Stringy ls ∧ textOf ls = '"' :: x.1 ∧ d.rest = x.2 ∧
        d.stack = [.root]) ∧
      (cutString? false s = none → Stringy c.lexemes ∧ c.finalStack = [.string, .root]) := by
  have hscan : cutMark? ['"'] c.rest = some (['"'], s) := cutMark?_eq_some.mpr ⟨rfl, hrest⟩
  have hm : c.match? = some (.plain [⟨.string, ['"']⟩] s (.push .string)) := by
    rw [Cursor.match?_of_root (Cursor.mode_of_stack hstack) hrest, Mode.rootRulesOn_quote]
    exact Cursor.firstMatch?_of_scan _ rfl hscan (by simp)
  have hst := Cursor.step?_of_match (by simp [hrest]) hm
  rw [Match.yield_plain] at hst
  have hopen : Stringy [⟨.string, ['"']⟩] := Cursor.stringy_singleton (Or.inl rfl) _
  have hbehind : (c.behind (.plain [⟨.string, ['"']⟩] s (.push .string))).stack =
      [.string, .root] := by
    simp [Cursor.behind, Match.plain, hstack, Move.apply]
  constructor
  · intro x hx
    obtain ⟨ls, d, hrun, hstringy, htext, hd, hroot⟩ :=
      Cursor.exists_run_of_cutString? hbehind hx
    refine ⟨_, d, .step hst hrun, ?_, by simp [htext], hd, hroot⟩
    exact List.forall_mem_append.mpr ⟨hopen, hstringy⟩
  · intro hnone
    obtain ⟨hstringy, hfinal⟩ := Cursor.stringy_of_cutString?_eq_none hbehind hnone
    rw [Cursor.lexemes_of_step? hst, Cursor.finalStack_of_step? hst]
    exact ⟨List.forall_mem_append.mpr ⟨hopen, hstringy⟩, hfinal⟩

/-- An escaped quote, an escape with a digit too few, a continued line, and an
escaped backslash in front of the closing quote. -/
theorem strings_end_at_closing_quote_escapes :
    cutString? false "\\\"\\x4g\\\n\n\\101\\\\\" x".toList =
        some ("\\\"\\x4g\\\n\n\\101\\\\\"".toList, " x".toList) ∧
      ∃ ls d, Cursor.Run ⟨some 'a', [.root], '"' :: "\\\"\\x4g\\\n\n\\101\\\\\" x".toList⟩ ls d ∧
        Stringy ls ∧ textOf ls = '"' :: "\\\"\\x4g\\\n\n\\101\\\\\"".toList ∧
        d.rest = " x".toList ∧ d.stack = [.root] := by
  have hscan : cutString? false "\\\"\\x4g\\\n\n\\101\\\\\" x".toList =
      some ("\\\"\\x4g\\\n\n\\101\\\\\"".toList, " x".toList) := by decide
  exact ⟨hscan, (strings_end_at_closing_quote (c := ⟨some 'a', [.root], _⟩) rfl rfl).1 _ hscan⟩

end GaussMarkup
