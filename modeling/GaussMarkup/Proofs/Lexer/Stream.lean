import GaussMarkup.Proofs.Lexer.Run

/-!
# Tokens on demand

A token stream hands out one token a call. It takes steps only while it has no
token left over from the last one, so its cursor runs ahead of what it has
handed out by at most one step. A fresh stream hands out the located lexemes of
its source, one after the other, and then nothing (`next_after_fresh`); its
cursor only comes to cursors that the run over the source comes through
(`reaches_after_fresh`).
-/

namespace GaussMarkup

/-- A source that is lexed on demand. -/
structure TokenStream where
  /-- Tokens of the last step that have not been handed out. -/
  pending : List Token
  /-- The place of the cursor. -/
  place : Nat
  cursor : Cursor

namespace TokenStream

/-- The stream over a source that begins at place `offset`. -/
def fresh (offset : Nat) (s : List Char) : TokenStream :=
  ⟨[], offset, Cursor.start s⟩

/-- The stream behind a step, which leaves all tokens of the step to be handed
out. -/
def behind (ts : TokenStream) (st : Step) : TokenStream :=
  ⟨locate ts.place st.lexemes, ts.place + byteSize (textOf st.lexemes), st.next⟩

/-- The next token, and the stream behind it. -/
def next (ts : TokenStream) : Option Token × TokenStream :=
  match ts.pending with
  | t :: rest => (some t, { ts with pending := rest })
  | [] =>
    match _hst : ts.cursor.step? with
    | none => (none, ts)
    | some st => (ts.behind st).next
termination_by ts.cursor.size
decreasing_by exact Cursor.size_step?_lt _hst

/-- The stream after a number of calls. -/
def after (ts : TokenStream) : Nat → TokenStream
  | 0 => ts
  | n + 1 => (ts.after n).next.2

/-- All tokens that a stream has still to hand out. -/
def remaining (ts : TokenStream) : List Token :=
  ts.pending ++ locate ts.place ts.cursor.lexemes

/-! ## Equations for the next token -/

theorem next_of_pending {ts : TokenStream} {t : Token} {rest : List Token}
    (h : ts.pending = t :: rest) : ts.next = (some t, { ts with pending := rest }) := by
  rw [next]
  split
  · next t' rest' h' =>
    obtain ⟨rfl, rfl⟩ := List.cons.inj (h.symm.trans h')
    rfl
  · next h' => rw [h] at h'; cases h'

theorem next_of_end {ts : TokenStream} (h : ts.pending = []) (hst : ts.cursor.step? = none) :
    ts.next = (none, ts) := by
  rw [next]
  split
  · next h' => rw [h] at h'; cases h'
  · split
    · rfl
    · next hst' => rw [hst] at hst'; cases hst'

theorem next_of_step {ts : TokenStream} {st : Step} (h : ts.pending = [])
    (hst : ts.cursor.step? = some st) : ts.next = (ts.behind st).next := by
  rw [next]
  split
  · next h' => rw [h] at h'; cases h'
  · split
    · next hst' => rw [hst] at hst'; cases hst'
    · next st' hst' =>
      obtain rfl := Option.some.inj (hst.symm.trans hst')
      rfl

theorem remaining_behind {ts : TokenStream} {st : Step} (h : ts.pending = [])
    (hst : ts.cursor.step? = some st) : (ts.behind st).remaining = ts.remaining := by
  simp only [remaining, behind, h, List.nil_append, Cursor.lexemes_of_step? hst]
  exact (locate_append ..).symm

/-! ## What a stream hands out -/

/-- A call hands out the first of the remaining tokens and keeps the others. -/
theorem next_eq (ts : TokenStream) :
    ts.next.1 = ts.remaining.head? ∧ ts.next.2.remaining = ts.remaining.tail := by
  cases hp : ts.pending with
  | cons t rest =>
      rw [next_of_pending hp]
      simp [remaining, hp]
  | nil =>
      cases hst : ts.cursor.step? with
      | none =>
          have hnone := Cursor.lexemes_of_nil (Cursor.step?_eq_none.mp hst)
          rw [next_of_end hp hst]
          simp [remaining, hp, hnone, locate]
      | some st =>
          have := Cursor.size_step?_lt hst
          rw [next_of_step hp hst, ← remaining_behind hp hst]
          exact next_eq (ts.behind st)
termination_by ts.cursor.size

theorem remaining_after (ts : TokenStream) (n : Nat) :
    (ts.after n).remaining = ts.remaining.drop n := by
  induction n with
  | zero => rfl
  | succ n ih => rw [after, (next_eq _).2, ih, List.tail_drop]

/-- Call number `n` on a fresh stream hands out token number `n` of its source. -/
theorem next_after_fresh (offset : Nat) (s : List Char) (n : Nat) :
    ((fresh offset s).after n).next.1 = (locate offset (lexemes s))[n]? := by
  rw [(next_eq _).1, remaining_after, List.head?_drop]
  rfl

/-! ## Where the cursor of a stream comes to -/

theorem exists_run_next (ts : TokenStream) : ∃ ls, ts.cursor.Run ls ts.next.2.cursor := by
  cases hp : ts.pending with
  | cons t rest =>
      rw [next_of_pending hp]
      exact ⟨[], .refl _⟩
  | nil =>
      cases hst : ts.cursor.step? with
      | none =>
          rw [next_of_end hp hst]
          exact ⟨[], .refl _⟩
      | some st =>
          have := Cursor.size_step?_lt hst
          obtain ⟨ls, hrun⟩ := exists_run_next (ts.behind st)
          rw [next_of_step hp hst]
          exact ⟨_, .step hst hrun⟩
termination_by ts.cursor.size

theorem reaches_after_fresh (offset : Nat) (s : List Char) (n : Nat) :
    Cursor.Reaches s ((fresh offset s).after n).cursor := by
  induction n with
  | zero => exact ⟨[], .refl _⟩
  | succ n ih =>
      obtain ⟨ls, hrun⟩ := ih
      obtain ⟨ms, hnext⟩ := exists_run_next ((fresh offset s).after n)
      exact ⟨ls ++ ms, hrun.trans hnext⟩

end TokenStream

end GaussMarkup
