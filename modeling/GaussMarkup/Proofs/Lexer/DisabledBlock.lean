import GaussMarkup.Proofs.Lexer.LineEffect
import GaussMarkup.Proofs.Lexer.Run

/-!
# Blocks that are switched off

Behind `#if 0` the lexer skips text up to the end of the block, and blocks may
be nested to any depth. `depthBehind` counts the depth over the lines of the
text, with no regard to how the lexer steps. Each step takes some lines without
an effect and one line more, and the height of the stack follows the count
(`exists_lineStep`). By induction along the run the lexer is back in root mode
at the end of the first line that brings the count to zero.
-/

namespace GaussMarkup

/-- The depth of blocks behind the first `n` lines of `s`, if it is `d` in front
of them. -/
def depthBehind (d : Nat) (s : List Char) (n : Nat) : Int :=
  ((lines s).take n).foldl (fun depth line => depth + lineEffect line) d

/-- The stack of modes at some depth of blocks, top first. -/
def disabledStack (d : Nat) : List Mode :=
  List.replicate d .disabled ++ [.root]

/-- Comments and directives are what a block that is switched off consists of. -/
def CommentedOut (ls : List Lexeme) : Prop :=
  ∀ l ∈ ls, l.kind = .comment ∨ l.kind = .directive

/-- Whether a cursor is at the start of a line or at the end of the text. -/
def Cursor.AtLine (c : Cursor) : Prop :=
  c.rest = [] ∨ atLineStart c.before = true

theorem commentedOut_append {ls ms : List Lexeme} (hls : CommentedOut ls)
    (hms : CommentedOut ms) : CommentedOut (ls ++ ms) :=
  List.forall_mem_append.mpr ⟨hls, hms⟩

theorem commentedOut_lexemeOf {kind : Kind} (h : kind = .comment ∨ kind = .directive)
    (text : List Char) : CommentedOut (lexemeOf kind text) := by
  unfold lexemeOf
  split
  · exact List.forall_mem_nil _
  · exact List.forall_mem_singleton.mpr h

/-! ## Steps over lines -/

/-- A step from depth `d` to depth `e` takes some lines without an effect and one
line more. -/
structure LineStep (c : Cursor) (d : Nat) (st : Step) (e : Nat) : Prop where
  step : c.step? = some st
  commented : CommentedOut st.lexemes
  lines_eq : ∃ added line, lines c.rest = added ++ line :: lines st.next.rest ∧
    (∀ a ∈ added, lineEffect a = 0) ∧ (e : Int) = d + lineEffect line
  stack : st.next.stack = disabledStack e
  atLine : st.next.AtLine

theorem apply_disabledStack {move : Move} {d : Nat} (h : move ∈ Mode.disabled.moves)
    (hd : d ≠ 0) :
    ∃ e : Nat, (e : Int) = d + move.effect ∧ move.apply (disabledStack d) = disabledStack e := by
  obtain ⟨d, rfl⟩ := Nat.exists_eq_succ_of_ne_zero hd
  simp only [Mode.moves, List.mem_cons, List.not_mem_nil, or_false] at h
  rcases h with rfl | rfl | rfl
  · exact ⟨d + 1, by simp [Move.effect], rfl⟩
  · exact ⟨d + 2, by simp only [Move.effect]; omega, rfl⟩
  · refine ⟨d, by simp only [Move.effect]; omega, ?_⟩
    cases d <;> rfl

/-- A match that takes a single lexeme up to the end of a line. -/
theorem lineStep_of_match? {c : Cursor} {d e : Nat} {kind : Kind} {w s : List Char}
    {move : Move} (hrest : c.rest ≠ [])
    (hm : c.match? =
      some (.plain (lexemeOf kind (w ++ (cutLine s).1)) (cutLine s).2 move))
    (hkind : kind = .comment ∨ kind = .directive)
    (hlines : ∃ added line, lines c.rest = added ++ line :: lines (cutLine s).2 ∧
      (∀ a ∈ added, lineEffect a = 0) ∧ (e : Int) = d + lineEffect line)
    (hstack : move.apply c.stack = disabledStack e) :
    ∃ st, LineStep c d st e := by
  refine ⟨_, Cursor.step?_of_match hrest hm, ?_, hlines, hstack, ?_⟩
  · rw [Match.yield_plain]
    exact commentedOut_lexemeOf hkind _
  · refine (cutLine_end s).imp id fun hlast => ?_
    simp [Cursor.behind, Cursor.lastTaken, Match.plain, Match.text, hlast, atLineStart]

theorem exists_lineStep {c : Cursor} {d : Nat} (hd : d ≠ 0) (hstack : c.stack = disabledStack d)
    (hline : atLineStart c.before = true) (hrest : c.rest ≠ []) :
    ∃ e st, LineStep c d st e := by
  have hmode : c.mode = .disabled := by
    obtain ⟨d, rfl⟩ := Nat.exists_eq_succ_of_ne_zero hd
    rw [Cursor.mode, hstack]
    rfl
  rcases match?_of_disabled hmode hline hrest with
    ⟨hne, move, hmove, heffect, hm⟩ | ⟨heffect, hm⟩
  · have hdirective : c.rest.dropWhile isBlank ≠ [] := by
      intro hnil
      rw [cutDirectiveLine, hnil] at hne
      exact hne lineEffect_nil
    obtain ⟨added, lead, hadded, hlead, hlines⟩ := exists_lines_eq hdirective
    obtain ⟨e, he, happly⟩ := apply_disabledStack hmove hd
    rw [← hstack] at happly
    rw [heffect, ← hlead] at he
    exact ⟨e, lineStep_of_match? hrest hm (Or.inr rfl) ⟨added, _, hlines, hadded, he⟩ happly⟩
  · have he : (d : Int) = d + lineEffect (cutLine c.rest).1 := by
      rw [lineEffect_cutLine heffect, Int.add_zero]
    have hlines := lines_of_ne_nil hrest
    exact ⟨d, lineStep_of_match? (w := []) hrest hm (Or.inl rfl)
      ⟨[], _, hlines, List.forall_mem_nil _, he⟩ hstack⟩

/-! ## The count over the lines that a step takes -/

theorem foldl_lineEffect_of_zero {ls : List (List Char)} (h : ∀ a ∈ ls, lineEffect a = 0)
    (d : Int) : ls.foldl (fun depth line => depth + lineEffect line) d = d := by
  induction ls generalizing d with
  | nil => rfl
  | cons a ls ih =>
      obtain ⟨ha, hls⟩ := List.forall_mem_cons.mp h
      rw [List.foldl_cons, ha, Int.add_zero, ih hls]

namespace LineStep

variable {c : Cursor} {d e : Nat} {st : Step}

/-- The count stays at `d` up to the last line of a step, and goes on from `e`
behind it. -/
theorem exists_depthBehind (h : LineStep c d st e) :
    ∃ k, (∀ n ≤ k, depthBehind d c.rest n = d) ∧
      (∀ n, depthBehind d c.rest (k + 1 + n) = depthBehind e st.next.rest n) ∧
      (∀ n, (lines c.rest).drop (k + 1 + n) = (lines st.next.rest).drop n) ∧
      (lines c.rest).length = k + 1 + (lines st.next.rest).length := by
  obtain ⟨added, line, hlines, hadded, he⟩ := h.lines_eq
  have hdrop (n : Nat) : added.length + 1 + n = (added ++ [line]).length + n := by simp
  have hlines' : lines c.rest = (added ++ [line]) ++ lines st.next.rest := by simp [hlines]
  refine ⟨added.length, fun n hn => ?_, fun n => ?_, fun n => ?_, ?_⟩
  · rw [depthBehind, hlines, List.take_append_of_le_length hn]
    exact foldl_lineEffect_of_zero (fun a ha => hadded a (List.mem_of_mem_take ha)) d
  · rw [depthBehind, depthBehind, hlines', hdrop, List.take_length_add_append,
      List.foldl_append, List.foldl_append, foldl_lineEffect_of_zero hadded, he]
    rfl
  · rw [hlines', hdrop, List.drop_length_add_append]
  · simp [hlines]
    omega

end LineStep

/-! ## Runs over lines -/

theorem depthBehind_of_nil (d n : Nat) : depthBehind d [] n = d := by
  simp [depthBehind, lines]

/-- Up to the first line that brings the depth to zero, the lexer produces
comments and directives; behind it, it is in root mode. -/
theorem exists_run_of_depthBehind_eq_zero {c : Cursor} {d n : Nat} (hd : d ≠ 0)
    (hstack : c.stack = disabledStack d) (hline : c.AtLine)
    (hzero : depthBehind d c.rest n = 0) (hfirst : ∀ m < n, depthBehind d c.rest m ≠ 0) :
    ∃ ls c', c.Run ls c' ∧ CommentedOut ls ∧ c'.rest = ((lines c.rest).drop n).flatten ∧
      c'.stack = [.root] := by
  induction c using Cursor.step_induction generalizing d n with
  | h c _ next =>
      by_cases hrest : c.rest = []
      · rw [hrest, depthBehind_of_nil] at hzero
        omega
      obtain ⟨e, st, hst⟩ := exists_lineStep hd hstack (hline.resolve_left hrest) hrest
      obtain ⟨k, hkeep, hgo, hdrop, -⟩ := hst.exists_depthBehind
      have hk : k < n := by
        refine Nat.lt_of_not_le fun hle => ?_
        rw [hkeep n hle] at hzero
        omega
      obtain ⟨m, rfl⟩ := Nat.exists_eq_add_of_le (Nat.succ_le_of_lt hk)
      rw [hgo] at hzero
      rw [hdrop]
      have hfirst' : ∀ i < m, depthBehind e st.next.rest i ≠ 0 := by
        intro i hi
        rw [← hgo]
        exact hfirst _ (by omega)
      by_cases he : e = 0
      · -- The count is zero behind this step, so this is the last line.
        subst he
        have hm : m = 0 := by
          refine Nat.eq_zero_of_not_pos fun hpos => hfirst' 0 hpos ?_
          simp [depthBehind]
        refine ⟨_, _, .single hst.step, hst.commented, ?_, hst.stack⟩
        rw [hm, List.drop_zero, flatten_lines]
      · obtain ⟨ls, c', hrun, hcommented, hrest', hstack'⟩ :=
          next st hst.step he hst.stack hst.atLine hzero hfirst'
        exact ⟨_, c', .step hst.step hrun, commentedOut_append hst.commented hcommented,
          hrest', hstack'⟩

/-- Where the depth never is zero, the rest of the text is commented out. -/
theorem commentedOut_of_depthBehind_ne_zero {c : Cursor} {d : Nat}
    (hstack : c.stack = disabledStack d) (hline : c.AtLine) (hne : ∀ n, depthBehind d c.rest n ≠ 0) :
    CommentedOut c.lexemes ∧ ∃ e : Nat, (e : Int) = depthBehind d c.rest (lines c.rest).length ∧
      c.finalStack = disabledStack e := by
  induction c using Cursor.step_induction generalizing d with
  | h c _ next =>
      by_cases hrest : c.rest = []
      · rw [Cursor.lexemes_of_nil hrest, Cursor.finalStack_of_nil hrest, hrest,
          depthBehind_of_nil]
        exact ⟨List.forall_mem_nil _, d, rfl, hstack⟩
      · have hd : d ≠ 0 := by
          rintro rfl
          exact hne 0 (by simp [depthBehind])
        obtain ⟨e, st, hst⟩ := exists_lineStep hd hstack (hline.resolve_left hrest) hrest
        obtain ⟨k, -, hgo, -, hlength⟩ := hst.exists_depthBehind
        have hne' : ∀ n, depthBehind e st.next.rest n ≠ 0 := by
          intro n
          rw [← hgo n]
          exact hne _
        obtain ⟨hcommented, e', he', hfinal⟩ := next st hst.step hst.stack hst.atLine hne'
        rw [Cursor.lexemes_of_step? hst.step, Cursor.finalStack_of_step? hst.step, hlength, hgo]
        exact ⟨commentedOut_append hst.commented hcommented, e', he', hfinal⟩

/-- **Blocks that are switched off are skipped line by line.** From the start of
a line at depth `d` on, the lexer produces comments and directives up to the end
of the first line that brings the depth to zero, and stands there in root mode.
Where no line does, the rest of the text is commented out, and the stack at its
end has the height of the count. -/
theorem disabled_blocks_skip_lines {c : Cursor} {d : Nat} (hd : 1 ≤ d)
    (hstack : c.stack = disabledStack d) (hline : atLineStart c.before = true) :
    (∀ n, depthBehind d c.rest n = 0 → (∀ m < n, depthBehind d c.rest m ≠ 0) →
      ∃ ls c', c.Run ls c' ∧ CommentedOut ls ∧
        textOf ls = ((lines c.rest).take n).flatten ∧
        c'.rest = ((lines c.rest).drop n).flatten ∧ c'.stack = [.root]) ∧
      ((∀ n, depthBehind d c.rest n ≠ 0) →
        CommentedOut c.lexemes ∧ ∃ e : Nat,
          (e : Int) = depthBehind d c.rest (lines c.rest).length ∧
            c.finalStack = disabledStack e) := by
  constructor
  · intro n hzero hfirst
    obtain ⟨ls, c', hrun, hcommented, hrest, hstack'⟩ :=
      exists_run_of_depthBehind_eq_zero (by omega) hstack (Or.inr hline) hzero hfirst
    refine ⟨ls, c', hrun, hcommented, ?_, hrest, hstack'⟩
    have hsplit : ((lines c.rest).take n).flatten ++ c'.rest = c.rest := by
      rw [hrest, ← List.flatten_append, List.take_append_drop, flatten_lines]
    exact List.append_cancel_right (hrun.textOf_eq.trans hsplit.symm)
  · exact commentedOut_of_depthBehind_ne_zero hstack (Or.inr hline)

/-- A nested block, a continued `#endif`, and an `#else` that closes the block. -/
theorem disabled_blocks_skip_lines_nested :
    depthBehind 1 "\n #IF 1\nx\n#endif \\\n\n#Endif\n#el\u017fe y\nz".toList 7 = 0 ∧
      ∃ ls c', Cursor.Run ⟨some '\n', disabledStack 1,
          "\n #IF 1\nx\n#endif \\\n\n#Endif\n#el\u017fe y\nz".toList⟩ ls c' ∧
        CommentedOut ls ∧
        textOf ls = "\n #IF 1\nx\n#endif \\\n\n#Endif\n#el\u017fe y\n".toList ∧
        c'.rest = "z".toList ∧ c'.stack = [.root] := by
  have hzero : depthBehind 1 "\n #IF 1\nx\n#endif \\\n\n#Endif\n#el\u017fe y\nz".toList 7 = 0 := by
    decide
  exact ⟨hzero, (disabled_blocks_skip_lines (c := ⟨some '\n', disabledStack 1, _⟩) (d := 1)
    (by decide) rfl (by decide)).1 7 hzero (by decide)⟩

end GaussMarkup
