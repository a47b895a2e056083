import GaussMarkup.Proofs.Lexer.CutOffRules
import GaussMarkup.Proofs.Lexer.LineEffect
import GaussMarkup.Proofs.Lexer.Progress

/-!
# Runs and texts that are cut off

A run over a text that stops in front of an equals sign is a run over the text that
is cut off there (`Run.exists_cutOff`). Each of its steps leaves the sign, so each is
made of the text in front of the sign too (`step?_extended`). In a block that is
switched off this is not so of the line that is cut off, but a run that comes to
such a line takes all of it, and so does not stop at the sign.
-/

namespace GaussMarkup

namespace Cursor

/-- A cursor in a text that is cut off, with the text from the sign on put back. -/
def extended (r : List Char) (c : Cursor) : Cursor :=
  { c with rest := c.rest ++ '=' :: r }

end Cursor

def Step.extended (r : List Char) (st : Step) : Step :=
  ⟨st.lexemes, st.next.extended r⟩

namespace Cursor

variable {c d : Cursor} {r : List Char} {ls : List Lexeme} {st : Step}

/-! ## Steps -/

theorem settled_match? (hrules : ∀ rule ∈ c.mode.rules, rule.SettlesOn c.before c.rest r) :
    Settled r (c.extended r).match? c.match? := by
  refine Settled.findSome? fun rule hrule => ?_
  refine (hrules rule hrule).filter (fun _ _ => rfl) fun m hm hle => advancesBy_of_text_ne_nil ?_
  have hlength := congrArg List.length (rule.covers hm).1
  simp only [List.length_append, List.length_cons] at hlength
  exact List.ne_nil_of_length_pos (by omega)

/-- A step leaves the sign only if it is made of the text in front of the sign. -/
theorem step?_extended (hne : c.rest ≠ [])
    (hrules : ∀ rule ∈ c.mode.rules, rule.SettlesOn c.before c.rest r) :
    (c.extended r).step? = c.step?.map (Step.extended r) ∨
      ∃ st, (c.extended r).step? = some st ∧ st.next.rest.length ≤ r.length := by
  obtain ⟨ch, s, hrest⟩ := List.exists_cons_of_ne_nil hne
  have hextended : (c.extended r).rest = ch :: (s ++ '=' :: r) := by simp [extended, hrest]
  rcases settled_match? hrules with hm | ⟨m, hm, hle⟩
  · left
    cases hmatch : c.match? with
    | none =>
        rw [hmatch] at hm
        simp only [step?, hrest, hextended, hm, hmatch]
        rfl
    | some m =>
        rw [hmatch] at hm
        simp only [step?, hrest, hextended, hm, hmatch]
        rfl
  · right
    exact ⟨_, step?_of_match (by simp [hextended]) hm, hle⟩

/-! ## Lines that are switched off -/

/-- A match in a block that is switched off goes to the end of a line. Only a
directive takes blank lines in front of it along. -/
theorem rest_of_match?_disabled {m : Match} (hmode : c.mode = .disabled) (hne : c.rest ≠ [])
    (h : c.match? = some m) :
    m.rest = (cutDirectiveLine c.rest).2 ∨ m.rest = (cutLine c.rest).2 ∧ m.move = .stay := by
  cases hline : atLineStart c.before with
  | true =>
      rcases match?_of_disabled hmode hline hne with ⟨-, move, -, -, hm⟩ | ⟨-, hm⟩
      · obtain rfl := Option.some.inj (hm.symm.trans h)
        exact Or.inl rfl
      · obtain rfl := Option.some.inj (hm.symm.trans h)
        exact Or.inr ⟨rfl, rfl⟩
  | false =>
      have hnone (rule : Rule) (rules : List Rule) :
          c.firstMatch? (rule.atLineStart :: rules) = c.firstMatch? rules :=
        firstMatch?_of_none rules (by simp [Rule.atLineStart, hline])
      have hstart : c.match? = c.firstMatch? [.disabledLine] := by
        rw [match?_eq_firstMatch?, hmode, Mode.rules]
        exact (hnone _ _).trans ((hnone _ _).trans (hnone _ _))
      have hadv : c.advancesBy (commentMatch c.rest) = true :=
        advancesBy_of_text_ne_nil (by simp [commentMatch, cutLine_ne_nil hne])
      rw [hstart, firstMatch?_of_some [] rfl hadv] at h
      obtain rfl := Option.some.inj h
      exact Or.inr ⟨rfl, rfl⟩

/-- The cursor is in a block that is switched off, in or in front of a line that is
cut off. -/
structure CutsLine (c : Cursor) : Prop where
  disabled : c.mode = .disabled
  cut : ¬WholeLine c.rest

/-- Such a line is taken to its end, perhaps after blank lines. -/
theorem CutsLine.step? (h : c.CutsLine) (hst : (c.extended r).step? = some st) :
    st.next.rest.length ≤ r.length ∨ ∃ d : Cursor, st.next = d.extended r ∧ d.CutsLine := by
  obtain ⟨hfeed, -⟩ := not_or.mp h.cut
  obtain ⟨hne, ⟨m, hm, rfl⟩ | ⟨ch, s, hrest, hnone, -⟩⟩ := step?_cases hst
  · have hmode : (c.extended r).mode = .disabled := h.disabled
    rcases rest_of_match?_disabled hmode hne hm with hline | ⟨hline, hstay⟩
    · left
      simp only [behind, hline, cutDirectiveLine, extended, dropWhile_isBlank_extended]
      exact length_cutLine_extended _ r hfeed
    · by_cases hblanks : '\n' ∈ c.rest
      · right
        refine ⟨⟨(c.extended r).lastTaken m.text, c.stack, (cutLine c.rest).2⟩, ?_, h.disabled,
          not_wholeLine_cutLine hblanks h.cut⟩
        simp only [behind, hline, hstay, extended, cutLine_extended_of_mem c.rest r hblanks]
        rfl
      · left
        simp only [behind, hline, extended]
        exact length_cutLine_extended _ r hblanks
  · have hfires : (c.extended r).mode.Fires (c.extended r).before (c.extended r).rest := by
      rw [hrest, show (c.extended r).mode = .disabled from h.disabled]
      exact Mode.disabled_fires _ ch s
    obtain ⟨m, hm⟩ := exists_match?_of_fires hfires
    rw [hnone] at hm
    cases hm

theorem Run.length_rest_le (h : Run c ls d) : d.rest.length ≤ c.rest.length := by
  rw [← h.textOf_eq, List.length_append]
  omega

theorem CutsLine.rest_ne (h : c.CutsLine) (hrun : Run (c.extended r) ls d) :
    d.rest ≠ '=' :: r := by
  generalize hc : c.extended r = c' at hrun
  induction hrun generalizing c with
  | refl =>
      subst hc
      intro hd
      have hnil : c.rest = [] := by simpa [extended] using hd
      exact h.cut (Or.inr (by rw [hnil]; rfl))
  | step hst hrun ih =>
      subst hc
      rcases h.step? hst with hle | ⟨e, he, hcuts⟩
      · intro hd
        have hlength := hrun.length_rest_le
        rw [hd, List.length_cons] at hlength
        omega
      · exact ih hcuts he.symm

/-! ## Runs -/

/-- A run that takes nothing closes a chain of members at most. -/
theorem Run.of_rest_eq (hrun : Run c ls d) (hstack : Stacked c.stack) (hrest : d.rest = c.rest) :
    ls = [] ∧ (d = c ∨ c.stack = [.member, .root] ∧ d = { c with stack := [.root] }) := by
  induction hrun with
  | refl c => exact ⟨rfl, Or.inl rfl⟩
  | @step c d st ls hst hrun ih =>
      have hlength := hrun.length_rest_le
      rcases takes_or_closesChain hstack hst with ⟨htakes, hjoin⟩ | ⟨hmember, rfl⟩
      · have hpos := List.length_pos_iff.mpr htakes
        have hsplit := congrArg List.length hjoin
        rw [hrest] at hlength
        rw [List.length_append] at hsplit
        omega
      · obtain ⟨rfl, rfl | ⟨hroot, -⟩⟩ := ih .root hrest
        · exact ⟨rfl, Or.inr ⟨hmember, rfl⟩⟩
        · cases hroot

/-- A run that stops in front of the sign is a run over the text that is cut off
there, up to the end of the chain of members in which it may end. -/
theorem Run.exists_cutOff (hrun : Run (c.extended r) ls d) (hstack : Stacked c.stack)
    (hrest : d.rest = '=' :: r) :
    ∃ e, Run c ls e ∧ e.rest = [] ∧
      (d = e.extended r ∨ e.stack = [.member, .root] ∧ d.stack = [.root]) := by
  generalize hc : c.extended r = c' at hrun
  induction hrun generalizing c with
  | refl =>
      subst hc
      exact ⟨c, .refl c, by simpa [extended] using hrest, Or.inl rfl⟩
  | @step c' d st ls hst hrun ih =>
      subst hc
      by_cases hnil : c.rest = []
      · have hrest' : d.rest = (c.extended r).rest := by rw [hrest, extended, hnil]; rfl
        obtain ⟨hls, hend⟩ := (Run.step hst hrun).of_rest_eq hstack hrest'
        refine ⟨c, by rw [hls]; exact .refl c, hnil, hend.imp id ?_⟩
        rintro ⟨hmember, rfl⟩
        exact ⟨hmember, rfl⟩
      by_cases hcuts : c.CutsLine
      · exact absurd hrest (hcuts.rest_ne (.step hst hrun))
      have hrules : ∀ rule ∈ c.mode.rules, rule.SettlesOn c.before c.rest r := by
        by_cases hmode : c.mode = .disabled
        · have hwhole : WholeLine c.rest := by_contra fun hline => hcuts ⟨hmode, hline⟩
          rw [hmode]
          exact Mode.settlesOn_disabled c.before hwhole r
        · exact Mode.settlesOn hmode c.before c.rest r
      rcases step?_extended hnil hrules with heq | ⟨st', hst', hle⟩
      · obtain ⟨st', hst', rfl⟩ := Option.map_eq_some_iff.mp (heq.symm.trans hst)
        obtain ⟨e, hrun', he⟩ := ih (stacked_step? hstack hst') hrest rfl
        have hshort := Run.step hst' hrun'
        exact ⟨e, hshort, he⟩
      · obtain rfl := Option.some.inj (hst.symm.trans hst')
        have hlength := hrun.length_rest_le
        rw [hrest, List.length_cons] at hlength
        omega

end Cursor

end GaussMarkup
