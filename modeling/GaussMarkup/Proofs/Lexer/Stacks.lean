import GaussMarkup.Proofs.Lexer.Matches
import GaussMarkup.Proofs.Lexer.Stream
import GaussMarkup.Proofs.Text.Lines

/-!
# The stack of modes

Only root mode opens other modes, and only a block that is switched off opens
another of its kind. So the stack of modes is the root with at most one mode on
it, or with any number of switched-off blocks. Under such a stack the rules of
the current mode leave no character out: some rule leads on wherever there is
text left. The step that takes a single character as plain text, for want of a
rule, is never taken.
-/

namespace GaussMarkup

/-- The stacks of modes that occur, top first. -/
inductive Stacked : List Mode → Prop
  | root : Stacked [.root]
  | string : Stacked [.string, .root]
  | member : Stacked [.member, .root]
  | directive : Stacked [.directive, .root]
  | disabled (depth : Nat) : Stacked (List.replicate (depth + 1) .disabled ++ [.root])

/-- No move of the current mode leads out of these stacks. -/
theorem Stacked.apply {stack : List Mode} {move : Move} (h : Stacked stack)
    (hmove : move ∈ (currentMode stack).moves) : Stacked (move.apply stack) := by
  cases h with
  | root =>
      simp only [currentMode, Mode.moves, List.mem_cons, List.not_mem_nil, or_false] at hmove
      rcases hmove with rfl | rfl | rfl | rfl | rfl
      · exact .root
      · exact .string
      · exact .member
      · exact .directive
      · exact .disabled 0
  | string =>
      simp only [currentMode, Mode.moves, List.mem_cons, List.not_mem_nil, or_false] at hmove
      rcases hmove with rfl | rfl
      · exact .string
      · exact .root
  | member =>
      simp only [currentMode, Mode.moves, List.mem_cons, List.not_mem_nil, or_false] at hmove
      rcases hmove with rfl | rfl
      · exact .member
      · exact .root
  | directive =>
      simp only [currentMode, Mode.moves, List.mem_cons, List.not_mem_nil, or_false] at hmove
      rcases hmove with rfl | rfl
      · exact .directive
      · exact .root
  | disabled depth =>
      simp only [List.replicate_succ, List.cons_append, currentMode, Mode.moves, List.mem_cons,
        List.not_mem_nil, or_false] at hmove
      rcases hmove with rfl | rfl | rfl
      · exact .disabled depth
      · exact .disabled (depth + 1)
      · cases depth with
        | zero => exact .root
        | succ depth => exact .disabled depth

/-! ## Some rule leads on -/

/-- Some rule of a mode finds a match that covers text. -/
def Mode.Fires (mode : Mode) (before : Option Char) (s : List Char) : Prop :=
  ∃ rule ∈ mode.rules, ∃ m, rule.find? before s = some m ∧ m.text ≠ []

/-- A rule that takes one lexeme fires where its scanner takes something. -/
theorem Mode.fires_of_scan {mode : Mode} {rule : Rule} {kind : Kind} {move : Move}
    {scan : List Char → Option Cut} {before : Option Char} {s : List Char} {x : Cut}
    (hrule : rule ∈ mode.rules)
    (hfind : rule.find? before s = (scan s).map fun x => .plain (lexemeOf kind x.1) x.2 move)
    (hscan : scan s = some x) (hne : x.1 ≠ []) : mode.Fires before s := by
  refine ⟨rule, hrule, .plain (lexemeOf kind x.1) x.2 move, ?_, ?_⟩
  · rw [hfind, hscan]
    rfl
  · simpa using hne

theorem cutMark?_singleton (c : Char) (s : List Char) : cutMark? [c] (c :: s) = some ([c], s) :=
  cutMark?_eq_some.mpr ⟨rfl, rfl⟩

theorem cutRun?_of_head {p : Char → Bool} {c : Char} (s : List Char) (h : p c = true) :
    cutRun? p (c :: s) = some (c :: s.takeWhile p, s.dropWhile p) := by
  simp [cutRun?, h]

theorem Mode.root_fires (before : Option Char) (c : Char) (s : List Char) :
    Mode.root.Fires before (c :: s) := by
  by_cases hc : c = '\n'
  · subst hc
    exact fires_of_scan (show Rule.newline ∈ _ by simp [rules]) rfl (cutMark?_singleton _ s)
      (by simp)
  · exact fires_of_scan (show Rule.other ∈ _ by simp [rules]) rfl
      (cutOne?_cons (by simpa using hc)) (by simp)

theorem Mode.string_fires (before : Option Char) (c : Char) (s : List Char) :
    Mode.string.Fires before (c :: s) := by
  by_cases hquote : c = '"'
  · subst hquote
    exact fires_of_scan (show Rule.stringEnd ∈ _ by simp [rules]) rfl
      (cutMark?_singleton _ s) (by simp)
  · by_cases hslash : c = '\\'
    · subst hslash
      exact fires_of_scan (show Rule.stringBackslash ∈ _ by simp [rules]) rfl
        (cutMark?_singleton _ s) (by simp)
    · exact fires_of_scan (show Rule.stringText ∈ _ by simp [rules]) rfl
        (cutRun?_of_head s (by simp [hquote, hslash])) (by simp)

theorem Mode.directive_fires (before : Option Char) (c : Char) (s : List Char) :
    Mode.directive.Fires before (c :: s) := by
  by_cases hslash : c = '/'
  · subst hslash
    exact fires_of_scan (show Rule.directiveSlash ∈ _ by simp [rules]) rfl
      (cutMark?_singleton _ s) (by simp)
  · by_cases hline : c = '\n'
    · subst hline
      exact fires_of_scan (show Rule.directiveEnd ∈ _ by simp [rules]) rfl
        (cutMark?_singleton _ s) (by simp)
    · exact fires_of_scan (show Rule.directiveText ∈ _ by simp [rules]) rfl
        (cutRun?_of_head s (by simp [hslash, hline])) (by simp)

theorem Mode.disabled_fires (before : Option Char) (c : Char) (s : List Char) :
    Mode.disabled.Fires before (c :: s) := by
  have hne : (cutLine (c :: s)).1 ≠ [] := cutLine_ne_nil (List.cons_ne_nil c s)
  refine ⟨.disabledLine, by simp [rules], _, rfl, ?_⟩
  simpa using hne

namespace Cursor

theorem exists_match?_of_find? {c : Cursor} {rule : Rule} {m : Match}
    (hrule : rule ∈ c.mode.rules) (hfind : rule.find? c.before c.rest = some m)
    (hadv : c.advancesBy m = true) : ∃ m', c.match? = some m' := by
  refine Option.isSome_iff_exists.mp (List.findSome?_isSome_iff.mpr ⟨rule, hrule, ?_⟩)
  rw [hfind, Option.filter_some, if_pos hadv]
  rfl

theorem exists_match?_of_fires {c : Cursor} (h : c.mode.Fires c.before c.rest) :
    ∃ m, c.match? = some m := by
  obtain ⟨rule, hrule, m, hfind, htext⟩ := h
  exact exists_match?_of_find? hrule hfind (advancesBy_of_text_ne_nil htext)

/-- Under the stacks that occur, a rule leads on wherever there is text. Behind
a member it may be the one that takes nothing and closes the chain. -/
theorem exists_match? {c : Cursor} (hstack : Stacked c.stack) (hne : c.rest ≠ []) :
    ∃ m, c.match? = some m := by
  obtain ⟨before, stack, rest⟩ := c
  obtain ⟨ch, rest, rfl⟩ := List.exists_cons_of_ne_nil hne
  cases hstack with
  | root => exact exists_match?_of_fires (Mode.root_fires before ch rest)
  | string => exact exists_match?_of_fires (Mode.string_fires before ch rest)
  | member =>
      have hrule : Rule.memberEnd ∈ Mode.member.rules := by simp [Mode.rules]
      exact exists_match?_of_find? hrule rfl rfl
  | directive => exact exists_match?_of_fires (Mode.directive_fires before ch rest)
  | disabled depth => exact exists_match?_of_fires (Mode.disabled_fires before ch rest)

/-! ## Everywhere the lexer comes -/

theorem stacked_step? {c : Cursor} {st : Step} (hstack : Stacked c.stack)
    (h : c.step? = some st) : Stacked st.next.stack := by
  obtain ⟨hne, ⟨m, hm, rfl⟩ | ⟨ch, rest, -, hnone, -⟩⟩ := step?_cases h
  · exact hstack.apply (move_mem_of_match? hm)
  · obtain ⟨m, hm⟩ := exists_match? hstack hne
    rw [hnone] at hm
    cases hm

theorem Visits.stacked {s : List Char} {c : Cursor} (h : Visits s c) : Stacked c.stack := by
  induction h with
  | start => exact .root
  | step _ hst ih => exact stacked_step? ih hst
  | inner _ _ _ _ => exact .root

end Cursor

/-- **Stacks and rules.** After any number of calls to a fresh token stream the
stack of modes is one of five shapes. So it is wherever the run over a source,
or over a text embedded in it at any depth, comes through; and there, with text
left, some rule of the current mode finds the match by which the lexer goes on,
so that it never falls back on taking a single character. -/
theorem stacked_and_rule_leads_on (s : List Char) :
    (∀ offset n, Cursor.Visits s ((TokenStream.fresh offset s).after n).cursor ∧
      Stacked ((TokenStream.fresh offset s).after n).cursor.stack) ∧
    ∀ c, Cursor.Visits s c → Stacked c.stack ∧
      (c.rest ≠ [] → ∃ rule ∈ c.mode.rules, ∃ m, rule.find? c.before c.rest = some m ∧
        c.advancesBy m = true ∧ c.step? = some ⟨m.yield, c.behind m⟩) := by
  constructor
  · intro offset n
    have hvisits := (TokenStream.reaches_after_fresh offset s n).visits
    exact ⟨hvisits, hvisits.stacked⟩
  · intro c hc
    refine ⟨hc.stacked, fun hne => ?_⟩
    obtain ⟨m, hm⟩ := Cursor.exists_match? hc.stacked hne
    obtain ⟨rule, hrule, hfind, hadv⟩ := Cursor.find_of_match? hm
    exact ⟨rule, hrule, m, hfind, hadv, Cursor.step?_of_match hne hm⟩

end GaussMarkup
