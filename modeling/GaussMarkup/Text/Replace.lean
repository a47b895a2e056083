/-!
# Replacing every occurrence

A mark is replaced from left to right; the search goes on behind each occurrence, so occurrences
do not overlap and what is put in is not searched again.
-/

namespace GaussMarkup

/-- The text `s` with every occurrence of the mark `x :: xs` replaced by `new`. -/
def replaceAll (x : Char) (xs new : List Char) : List Char → List Char
  | [] => []
  | c :: s =>
    if c = x ∧ xs.isPrefixOf s then new ++ replaceAll x xs new (s.drop xs.length)
    else c :: replaceAll x xs new s
termination_by s => s.length
decreasing_by all_goals (simp; try omega)

@[simp] theorem replaceAll_nil (x : Char) (xs new : List Char) : replaceAll x xs new [] = [] := by
  rw [replaceAll]

section Front

variable {c x y : Char} {xs new s : List Char}

theorem replaceAll_of_ne (h : c ≠ x) :
    replaceAll x xs new (c :: s) = c :: replaceAll x xs new s := by
  rw [replaceAll, if_neg fun hmark => h hmark.1]

/-- A mark of one character. -/
theorem replaceAll_one : replaceAll x [] new (x :: s) = new ++ replaceAll x [] new s := by
  rw [replaceAll, if_pos (by simp)]
  rfl

/-- A mark of two characters. -/
theorem replaceAll_two : replaceAll x [y] new (x :: y :: s) = new ++ replaceAll x [y] new s := by
  rw [replaceAll, if_pos (by simp)]
  rfl

/-- The first character of a mark of two, without the second behind it. -/
theorem replaceAll_alone (h : s.head? ≠ some y) :
    replaceAll x [y] new (x :: s) = x :: replaceAll x [y] new s := by
  rw [replaceAll, if_neg ?_]
  rintro ⟨-, hmark⟩
  obtain ⟨t, rfl⟩ := List.isPrefixOf_iff_prefix.mp hmark
  exact h rfl

end Front

end GaussMarkup
