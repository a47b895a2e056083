import GaussMarkup.Proofs.Lexer.Matches
import GaussMarkup.Proofs.Lexer.Run

/-!
# Starting over at the start of a line

Of the text behind it, a cursor keeps one character. Rules ask whether it is a
line feed, a backslash or part of a word, and a line feed answers all of them as
the start of a text does (`Mode.restarts`). So where the lexer comes to the start
of a line in root mode, with no other mode open, its next step is the first step
over the rest of the text; and as that step takes a character, the cursor behind
it is the same too.
-/

namespace GaussMarkup

/-! ## Rules at the start of a line -/

theorem Guard.admits_lineFeed {guard : Guard} (h : guard ≠ .precededBy '\n')
    (taken rest : List Char) :
    guard.admits (some '\n') taken rest = guard.admits none taken rest := by
  cases guard with
  | notFollowedBy c => rfl
  | precededBy c =>
      have hc : '\n' ≠ c := fun heq => h (heq ▸ rfl)
      simp [Guard.admits, hc]
  | unescapedFinalNewline => rfl
  | boundaryBeforeDigit =>
      have hword : isAlphanumeric '\n' = false := by decide
      cases taken <;> simp [Guard.admits, hword]

namespace Rule

/-- A rule finds behind a line feed what it finds at the start of a text. -/
def Restarts (rule : Rule) : Prop :=
  ∀ s, rule.find? (some '\n') s = rule.find? none s

theorem restarts_guarded {kind : Kind} {move : Move} {scan : List Char → Option Cut}
    {guard : Guard} {h : Joins scan} (hguard : guard ≠ .precededBy '\n') :
    (guarded kind move scan guard h).Restarts := by
  intro s
  simp only [guarded, Guard.admits_lineFeed hguard]

end Rule

/-- Most rules do not look behind the cursor, or only for the start of a line. -/
theorem Mode.restarts {mode : Mode} : ∀ rule ∈ mode.rules, rule.Restarts := by
  have hdecimal : Rule.decimal.Restarts := Rule.restarts_guarded (by decide)
  cases mode <;>
    simp only [Mode.rules, List.forall_mem_cons, List.not_mem_nil, false_implies, implies_true,
      and_true] <;>
    and_intros <;> first | exact fun _ => rfl | exact hdecimal

namespace Cursor

/-! ## Cursors at the start of a line -/

/-- A cursor with no text behind it. -/
def alone (c : Cursor) : Cursor :=
  { c with before := none }

/-- The cursor is at the start of the text or of a line. -/
theorem match?_alone {c : Cursor} (h : atLineStart c.before = true) :
    c.alone.match? = c.match? := by
  have hbefore : c.before = none ∨ c.before = some '\n' := by simpa [atLineStart] using h
  refine findSome?_congr fun rule hrule => ?_
  have hfind : rule.find? none c.rest = rule.find? c.before c.rest := by
    rcases hbefore with hnone | hline
    · rw [hnone]
    · rw [hline, Mode.restarts rule hrule]
  show (rule.find? none c.rest).filter c.advancesBy = _
  rw [hfind]

theorem text_ne_nil_of_advancesBy {c : Cursor} {m : Match} (hstack : c.stack = [.root])
    (h : c.advancesBy m = true) : m.text ≠ [] := by
  intro htext
  have hdrops : m.move.drops c.stack = false := by
    rw [hstack]
    cases m.move <;> rfl
  simp [advancesBy, Match.isEmpty, htext, hdrops] at h

theorem behind_alone {c : Cursor} {m : Match} (h : m.text ≠ []) :
    c.alone.behind m = c.behind m := by
  simp [behind, lastTaken, List.getLast?_eq_some_getLast h, alone]

/-- In root mode alone, with a line in front of it, a cursor goes on as if its
text began there. -/
theorem step?_alone {c : Cursor} (h : atLineStart c.before = true) (hstack : c.stack = [.root]) :
    c.alone.step? = c.step? := by
  have hrest : c.alone.rest = c.rest := rfl
  simp only [step?, hrest, match?_alone h]
  cases c.rest with
  | nil => rfl
  | cons ch rest =>
      cases hm : c.match? with
      | none => rfl
      | some m =>
          obtain ⟨-, -, -, hadvances⟩ := find_of_match? hm
          have hbehind : c.alone.behind m = c.behind m :=
            behind_alone (text_ne_nil_of_advancesBy hstack hadvances)
          simp only [hbehind]

theorem steps_alone {c : Cursor} (h : atLineStart c.before = true) (hstack : c.stack = [.root]) :
    c.alone.steps = c.steps := by
  have hstep := step?_alone h hstack
  cases hst : c.step? with
  | none =>
      have hrest := step?_eq_none.mp hst
      rw [steps_of_nil hrest, steps_of_nil (c := c.alone) hrest]
  | some st =>
      rw [steps_of_step? hst, steps_of_step? (hstep.trans hst)]

theorem last_of_step? {c : Cursor} {st : Step} (h : c.step? = some st) :
    st.next.before = (textOf st.lexemes).getLast?.or c.before := by
  obtain ⟨-, ⟨m, -, rfl⟩ | ⟨ch, rest, -, -, rfl⟩⟩ := step?_cases h
  · simp [Match.yield, behind, lastTaken, Match.text]
  · rfl

/-- What a cursor keeps of the text behind it is its last character. -/
theorem Run.before_eq {c d : Cursor} {ls : List Lexeme} (h : Run c ls d) :
    d.before = (textOf ls).getLast?.or c.before := by
  induction h with
  | refl c => rfl
  | step hst _ ih =>
      rw [ih, last_of_step? hst, textOf_append, List.getLast?_append, Option.or_assoc]

end Cursor

/-! ## Tokens at another place -/

/-- A token with its span moved on. -/
def Token.shift (n : Nat) (t : Token) : Token :=
  { t with start := t.start + n }

theorem locate_add (start n : Nat) (ls : List Lexeme) :
    locate (start + n) ls = (locate start ls).map (Token.shift n) := by
  induction ls generalizing start with
  | nil => rfl
  | cons l ls ih =>
      have hnext : start + n + byteSize l.text = start + byteSize l.text + n := by omega
      rw [locate, locate, List.map_cons, hnext, ih]
      rfl

/-- **Lexing restarts cleanly at line starts.** Where the run over a text comes
through a place that is the start of a line, with no mode but the root open, it
goes on with the steps of the run over the rest alone. So the tokens from there
on are the tokens of the rest, with their spans moved on by the size of what is
in front of it, and they have the same stacks. -/
theorem restarts_at_line_start {a b : List Char} {c : Cursor} {ls : List Lexeme}
    (ha : a = [] ∨ a.getLast? = some '\n') (hrun : (Cursor.start (a ++ b)).Run ls c)
    (hrest : c.rest = b) (hstack : c.stack = [.root]) :
    textOf ls = a ∧ c.steps = (Cursor.start b).steps ∧
      tokenize (a ++ b) = locate 0 ls ++ (tokenize b).map (Token.shift (byteSize a)) ∧
      (tokenStacks (a ++ b)).drop ls.length = tokenStacks b ∧
      finalStack (a ++ b) = finalStack b := by
  have htext : textOf ls = a := by
    have heq := hrun.textOf_eq
    rw [hrest] at heq
    exact List.append_cancel_right heq
  have hline : atLineStart c.before = true := by
    rw [hrun.before_eq, htext]
    rcases ha with rfl | hlast
    · rfl
    · rw [hlast]
      rfl
  have halone : c.alone = Cursor.start b := by
    rw [Cursor.alone, hstack, hrest]
    rfl
  have hsteps : c.steps = (Cursor.start b).steps := by
    rw [← halone, Cursor.steps_alone hline hstack]
  refine ⟨htext, hsteps, ?_, ?_, ?_⟩
  · have hlexemes : c.lexemes = lexemes b := by
      rw [Cursor.lexemes, hsteps]
      rfl
    have hall : lexemes (a ++ b) = ls ++ lexemes b := by
      rw [← hlexemes]
      exact hrun.lexemes_eq
    rw [tokenize, hall, locate_append, htext, locate_add]
    rfl
  · have hdrop := hrun.drop_lexemeStacks
    rw [Cursor.lexemeStacks, Cursor.lexemeStacks, hsteps] at hdrop
    exact hdrop
  · have hfinal : c.finalStack = finalStack b := by
      rw [Cursor.finalStack, hsteps, hstack]
      rfl
    exact hrun.finalStack_eq.trans hfinal

/-- A directive line opens a mode and closes it; behind it a number may start, as
no word is in front of it. -/
theorem restarts_at_line_start_directive :
    ∃ ls c, (Cursor.start ("#x\n".toList ++ "1.5".toList)).Run ls c ∧
      c.rest = "1.5".toList ∧ c.stack = [.root] ∧
      textOf ls = "#x\n".toList ∧ c.steps = (Cursor.start "1.5".toList).steps ∧
      tokenize ("#x\n".toList ++ "1.5".toList) =
        locate 0 ls ++ (tokenize "1.5".toList).map (Token.shift 3) ∧
      (tokenStacks ("#x\n".toList ++ "1.5".toList)).drop ls.length = tokenStacks "1.5".toList ∧
      finalStack ("#x\n".toList ++ "1.5".toList) = finalStack "1.5".toList := by
  have hsign : (Cursor.start "#x\n1.5".toList).match? =
      some ⟨[], [], [⟨.directive, ['#']⟩], "x\n1.5".toList, .push .directive⟩ := by rfl
  have hword : (⟨some '#', [.directive, .root], "x\n1.5".toList⟩ : Cursor).match? =
      some (.plain [⟨.directive, ['x']⟩] "\n1.5".toList .stay) := by rfl
  have hend : (⟨some 'x', [.directive, .root], "\n1.5".toList⟩ : Cursor).match? =
      some (.plain [⟨.directive, ['\n']⟩] "1.5".toList .pop) := by rfl
  have hrun : (Cursor.start ("#x\n".toList ++ "1.5".toList)).Run _ _ :=
    .step (Cursor.step?_of_match (by decide) hsign) <|
      .step (Cursor.step?_of_match (by decide) hword) <|
        .single (Cursor.step?_of_match (by decide) hend)
  exact ⟨_, _, hrun, rfl, rfl, restarts_at_line_start (.inr rfl) hrun rfl rfl⟩

end GaussMarkup
