import GaussMarkup.Lexer.Cut

/-!
# Lines of a text

A text is cut into lines behind each of its line feeds; the last line may lack
one. `cutLine` takes the first line of a text (`lines_of_ne_nil`). Text put in
front of another one adds lines and lengthens its first one, and leaves the
others as they are (`lines_append`).
-/

namespace GaussMarkup

/-- The lines of a text, each with the line feed that ends it. -/
def lines : List Char → List (List Char)
  | [] => []
  | c :: s =>
    if c = '\n' then [c] :: lines s
    else
      match lines s with
      | [] => [[c]]
      | line :: rest => (c :: line) :: rest

/-! ## The first line -/

theorem cutLine_ne_nil {s : List Char} (h : s ≠ []) : (cutLine s).1 ≠ [] := by
  obtain ⟨c, s, rfl⟩ := List.exists_cons_of_ne_nil h
  simp only [cutLine]
  split <;> simp

/-- Behind a line the text is at its end or at the start of another line. -/
theorem cutLine_end (s : List Char) :
    (cutLine s).2 = [] ∨ (cutLine s).1.getLast? = some '\n' := by
  induction s with
  | nil => exact Or.inl rfl
  | cons c s ih =>
      simp only [cutLine]
      split
      · next hc => exact Or.inr (by simp [hc])
      · refine ih.imp_right fun hlast => ?_
        rw [List.getLast?_cons, hlast]
        rfl

/-- A stretch without a line feed lengthens the first line. -/
theorem cutLine_append {a : List Char} (ha : '\n' ∉ a) (s : List Char) :
    cutLine (a ++ s) = (a ++ (cutLine s).1, (cutLine s).2) := by
  induction a with
  | nil => rfl
  | cons c a ih =>
      rw [List.mem_cons, not_or] at ha
      simp [cutLine, Ne.symm ha.1, ih ha.2]

theorem cutLine_subset (s : List Char) : (cutLine s).1 ⊆ s := by
  have hsub := List.subset_append_left (cutLine s).1 (cutLine s).2
  rwa [cutLine_join] at hsub

/-! ## All lines -/

theorem lines_of_ne_nil {s : List Char} (h : s ≠ []) :
    lines s = (cutLine s).1 :: lines (cutLine s).2 := by
  induction s with
  | nil => exact absurd rfl h
  | cons c s ih =>
      simp only [lines, cutLine]
      split
      · rfl
      · cases s with
        | nil => rfl
        | cons d s => rw [ih (by simp)]

@[simp] theorem flatten_lines (s : List Char) : (lines s).flatten = s := by
  induction s with
  | nil => rfl
  | cons c s ih =>
      simp only [lines]
      split
      · simp [ih]
      · split
        · next h =>
          rw [h] at ih
          simp [← ih]
        · next h =>
          rw [h] at ih
          simp [← ih]

theorem lines_line {body : List Char} (hbody : '\n' ∉ body) (s : List Char) :
    lines (body ++ '\n' :: s) = (body ++ ['\n']) :: lines s := by
  induction body with
  | nil => simp [lines]
  | cons c body ih =>
      rw [List.mem_cons, not_or] at hbody
      simp [lines, Ne.symm hbody.1, ih hbody.2]

/-- Text put in front adds some lines and lengthens the first one. -/
theorem lines_append (a : List Char) {s : List Char} (hs : s ≠ []) :
    ∃ added lead, a = added.flatten ++ lead ∧
      lines (a ++ s) = added ++ (lead ++ (cutLine s).1) :: lines (cutLine s).2 := by
  induction a with
  | nil => exact ⟨[], [], rfl, lines_of_ne_nil hs⟩
  | cons c a ih =>
      obtain ⟨added, lead, ha, hlines⟩ := ih
      by_cases hc : c = '\n'
      · refine ⟨[c] :: added, lead, by simp [ha], ?_⟩
        simp [lines, hc, hlines]
      · cases added with
        | nil =>
            refine ⟨[], c :: lead, by simp [ha], ?_⟩
            simp [lines, hc, hlines]
        | cons line added =>
            refine ⟨(c :: line) :: added, lead, by simp [ha], ?_⟩
            simp [lines, hc, hlines]

end GaussMarkup
