import GaussMarkup.Lexer.Step

/-!
# Runs of the lexer

`Cursor.steps` lists all steps up to the end of the text. Here the list is
taken apart: `Cursor.step?` is a single step, and `Run c ls d` says that some
steps lead from `c` to `d` and produce the lexemes `ls` on their way. What a
step does carries over to a run by induction on `Run`, and every list of steps
is the run to the end of the text (`exists_run_lexemes`).

The embedded texts of a source are lexed by runs of their own, from a fresh
cursor. `Visits s c` says that the run over `s`, or one that it embeds at any
depth, comes through the cursor `c`.
-/

namespace GaussMarkup

/-- What a match produces: its own lexemes around those of its embedded text. -/
def Match.yield (m : Match) : List Lexeme :=
  m.front ++ lexemes m.inner ++ m.back

namespace Cursor

/-! ## Single steps -/

/-- The next step, if any text is left. -/
def step? (c : Cursor) : Option Step :=
  match c.rest with
  | [] => none
  | ch :: rest =>
    match c.match? with
    | some m => some ⟨m.yield, c.behind m⟩
    | none => some ⟨[⟨.text, [ch]⟩], c.behindChar ch rest⟩

theorem step?_of_nil {c : Cursor} (h : c.rest = []) : c.step? = none := by
  simp [step?, h]

theorem step?_of_match {c : Cursor} {m : Match} (hrest : c.rest ≠ [])
    (hm : c.match? = some m) : c.step? = some ⟨m.yield, c.behind m⟩ := by
  obtain ⟨ch, rest, h⟩ := List.exists_cons_of_ne_nil hrest
  simp [step?, h, hm]

theorem step?_eq_none {c : Cursor} : c.step? = none ↔ c.rest = [] := by
  constructor
  · intro h
    unfold step? at h
    split at h
    · assumption
    · split at h <;> simp at h
  · exact step?_of_nil

/-- The two ways in which a step comes about. -/
theorem step?_cases {c : Cursor} {st : Step} (h : c.step? = some st) :
    c.rest ≠ [] ∧
      ((∃ m, c.match? = some m ∧ st = ⟨m.yield, c.behind m⟩) ∨
        ∃ ch rest, c.rest = ch :: rest ∧ c.match? = none ∧
          st = ⟨[⟨.text, [ch]⟩], c.behindChar ch rest⟩) := by
  unfold step? at h
  split at h
  · cases h
  · next ch rest hrest =>
    refine ⟨by simp [hrest], ?_⟩
    split at h
    · next m hm => exact Or.inl ⟨m, hm, (Option.some.inj h).symm⟩
    · next hm => exact Or.inr ⟨ch, rest, hrest, hm, (Option.some.inj h).symm⟩

theorem size_step?_lt {c : Cursor} {st : Step} (h : c.step? = some st) :
    st.next.size < c.size := by
  obtain ⟨-, ⟨m, hm, rfl⟩ | ⟨ch, rest, hrest, -, rfl⟩⟩ := step?_cases h
  · exact size_behind_lt hm
  · exact size_behindChar_lt hrest

theorem steps_of_nil {c : Cursor} (h : c.rest = []) : c.steps = [] := by
  rw [steps]
  split
  · rfl
  · next hrest => rw [h] at hrest; cases hrest

theorem steps_of_step? {c : Cursor} {st : Step} (h : c.step? = some st) :
    c.steps = st :: st.next.steps := by
  obtain ⟨hne, hcases⟩ := step?_cases h
  rw [steps]
  split
  · next hnil => exact absurd hnil hne
  · next ch rest hrest =>
    rcases hcases with ⟨m, hm, rfl⟩ | ⟨ch', rest', hrest', hm, rfl⟩
    · split
      · next m' hm' =>
        obtain rfl := Option.some.inj (hm.symm.trans hm')
        rfl
      · next hm' => rw [hm] at hm'; cases hm'
    · obtain ⟨rfl, rfl⟩ := List.cons.inj (hrest'.symm.trans hrest)
      split
      · next m' hm' => rw [hm] at hm'; cases hm'
      · rfl

theorem lexemes_of_nil {c : Cursor} (h : c.rest = []) : c.lexemes = [] := by
  simp [lexemes, steps_of_nil h]

theorem lexemes_of_step? {c : Cursor} {st : Step} (h : c.step? = some st) :
    c.lexemes = st.lexemes ++ st.next.lexemes := by
  simp [lexemes, steps_of_step? h]

theorem finalStack_of_nil {c : Cursor} (h : c.rest = []) : c.finalStack = c.stack := by
  simp [finalStack, steps_of_nil h]

theorem finalStack_of_step? {c : Cursor} {st : Step} (h : c.step? = some st) :
    c.finalStack = st.next.finalStack := by
  simp only [finalStack, steps_of_step? h, List.getLast?_cons]
  cases st.next.steps.getLast? <;> rfl

/-- For each lexeme from a cursor on, the stack of modes behind its step. -/
def lexemeStacks (c : Cursor) : List (List Mode) :=
  c.steps.flatMap fun st => st.lexemes.map fun _ => st.next.stack

theorem lexemeStacks_of_step? {c : Cursor} {st : Step} (h : c.step? = some st) :
    c.lexemeStacks = (st.lexemes.map fun _ => st.next.stack) ++ st.next.lexemeStacks := by
  simp [lexemeStacks, steps_of_step? h]

/-- What holds of a cursor as soon as it holds of the start of each embedded
text and behind the next step holds of every cursor. -/
theorem step_induction {P : Cursor → Prop}
    (h : ∀ c : Cursor,
      (∀ m, c.rest ≠ [] → c.match? = some m → P (start m.inner)) →
      (∀ st, c.step? = some st → P st.next) → P c) (c : Cursor) : P c :=
  h c (fun _ hne hm =>
      have := size_inner_lt hm hne
      step_induction h _)
    (fun _ hst =>
      have := size_step?_lt hst
      step_induction h _)
termination_by c.size

/-! ## No text is lost -/

/-- The lexemes from a cursor on are the text in front of it. -/
@[simp] theorem textOf_lexemes (c : Cursor) : textOf c.lexemes = c.rest := by
  induction c using step_induction with
  | h c inner next =>
      cases hst : c.step? with
      | none =>
          have hrest := step?_eq_none.mp hst
          rw [lexemes_of_nil hrest, hrest, textOf_nil]
      | some st =>
          rw [lexemes_of_step? hst, textOf_append, next st hst]
          obtain ⟨hne, ⟨m, hm, rfl⟩ | ⟨ch, rest, hrest, -, rfl⟩⟩ := step?_cases hst
          · have hinner : textOf (GaussMarkup.lexemes m.inner) = m.inner := inner m hne hm
            have hm := (covers_of_match? hm).1
            simpa [Match.yield, hinner, Match.text, behind] using hm
          · simp [behindChar, hrest]

/-! ## Runs -/

/-- Some steps lead from one cursor to another and produce these lexemes. -/
inductive Run : Cursor → List Lexeme → Cursor → Prop
  | refl (c : Cursor) : Run c [] c
  | step {c d : Cursor} {st : Step} {ls : List Lexeme} :
      c.step? = some st → Run st.next ls d → Run c (st.lexemes ++ ls) d

namespace Run

theorem single {c : Cursor} {st : Step} (h : c.step? = some st) :
    Run c st.lexemes st.next := by
  have hrun := Run.step h (.refl st.next)
  rwa [List.append_nil] at hrun

theorem trans {c d e : Cursor} {ls ms : List Lexeme} (h : Run c ls d) (h' : Run d ms e) :
    Run c (ls ++ ms) e := by
  induction h with
  | refl c => exact h'
  | step hst _ ih =>
      rw [List.append_assoc]
      exact .step hst (ih h')

theorem lexemes_eq {c d : Cursor} {ls : List Lexeme} (h : Run c ls d) :
    c.lexemes = ls ++ d.lexemes := by
  induction h with
  | refl c => rfl
  | step hst _ ih => rw [lexemes_of_step? hst, ih, List.append_assoc]

theorem finalStack_eq {c d : Cursor} {ls : List Lexeme} (h : Run c ls d) :
    c.finalStack = d.finalStack := by
  induction h with
  | refl c => rfl
  | step hst _ ih => rw [finalStack_of_step? hst, ih]

theorem drop_lexemeStacks {c d : Cursor} {ls : List Lexeme} (h : Run c ls d) :
    c.lexemeStacks.drop ls.length = d.lexemeStacks := by
  induction h with
  | refl c => rfl
  | @step c d st ls hst _ ih =>
      have hlength : (st.lexemes ++ ls).length =
          (st.lexemes.map fun _ => st.next.stack).length + ls.length := by simp
      rw [lexemeStacks_of_step? hst, hlength, List.drop_length_add_append, ih]

theorem textOf_eq {c d : Cursor} {ls : List Lexeme} (h : Run c ls d) :
    textOf ls ++ d.rest = c.rest := by
  rw [← Cursor.textOf_lexemes d, ← textOf_append, ← h.lexemes_eq, Cursor.textOf_lexemes]

end Run

/-- Every run can be taken to the end of the text. -/
theorem exists_run_lexemes (c : Cursor) :
    ∃ d, Run c c.lexemes d ∧ d.rest = [] ∧ d.stack = c.finalStack := by
  induction c using step_induction with
  | h c _ next =>
      cases hst : c.step? with
      | none =>
          have hrest := step?_eq_none.mp hst
          rw [lexemes_of_nil hrest, finalStack_of_nil hrest]
          exact ⟨c, .refl c, hrest, rfl⟩
      | some st =>
          obtain ⟨d, hrun, hrest, hstack⟩ := next st hst
          rw [lexemes_of_step? hst, finalStack_of_step? hst]
          exact ⟨d, .step hst hrun, hrest, hstack⟩

/-! ## Cursors that a source leads to -/

/-- The run over a source comes through a cursor. -/
def Reaches (s : List Char) (c : Cursor) : Prop :=
  ∃ ls, Run (start s) ls c

/-- The run over a source, or over a text embedded in it at any depth, comes
through a cursor. -/
inductive Visits (s : List Char) : Cursor → Prop
  | start : Visits s (start s)
  | step {c : Cursor} {st : Step} : Visits s c → c.step? = some st → Visits s st.next
  | inner {c : Cursor} {m : Match} :
      Visits s c → c.rest ≠ [] → c.match? = some m → Visits s (Cursor.start m.inner)

theorem Visits.run {s : List Char} {c d : Cursor} {ls : List Lexeme} (hc : Visits s c)
    (h : Run c ls d) : Visits s d := by
  induction h with
  | refl c => exact hc
  | step hst _ ih => exact ih (hc.step hst)

theorem Reaches.visits {s : List Char} {c : Cursor} (h : Reaches s c) : Visits s c := by
  obtain ⟨ls, hrun⟩ := h
  exact Visits.start.run hrun

end Cursor

@[simp] theorem lexemes_nil : lexemes [] = [] :=
  Cursor.lexemes_of_nil rfl

theorem Match.yield_plain (ls : List Lexeme) (rest : List Char) (move : Move) :
    (Match.plain ls rest move).yield = ls := by
  simp [yield, plain]

theorem Cursor.step?_of_plain {c : Cursor} {ls : List Lexeme} {rest : List Char} {move : Move}
    (hrest : c.rest ≠ []) (hm : c.match? = some (.plain ls rest move)) :
    c.step? = some ⟨ls, c.behind (.plain ls rest move)⟩ := by
  rw [step?_of_match hrest hm, Match.yield_plain]

/-- The lexemes of a source are its text. -/
@[simp] theorem textOf_lexemes (s : List Char) : textOf (lexemes s) = s :=
  Cursor.textOf_lexemes _

end GaussMarkup
