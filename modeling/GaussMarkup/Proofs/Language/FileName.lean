import GaussMarkup.Language.FileName

/-!
# The file that a path names

A path is some parts with slashes between them, and there is one way only to read it so
(`splitPathFrom_intercalate`). The last of its parts that is neither empty nor a single
dot is the name of a file, unless it is a double dot; the root and the empty path have no
such part (`fileName?_eq_some_iff`, `fileName?_eq_none_iff`).
-/

namespace GaussMarkup

/-- Path and part: behind the part, which is neither empty nor a single dot, there are
only parts that are. -/
def EndsIn (path part : List Char) : Prop :=
  ∃ front back, path = List.intercalate ['/'] (front ++ part :: back) ∧
    (∀ p ∈ front ++ part :: back, '/' ∉ p) ∧ (part ≠ [] ∧ part ≠ ['.']) ∧
      ∀ p ∈ back, p = [] ∨ p = ['.']

variable {path part name : List Char} {parts : List (List Char)}

/-! ## Parts between slashes -/

theorem splitPathFrom_eq (part s : List Char) :
    splitPathFrom part s = List.splitOnPPrepend (· == '/') s part := by
  induction s generalizing part with
  | nil => rfl
  | cons c s ih =>
      rw [splitPathFrom, List.splitOnPPrepend]
      simp only [ih, beq_iff_eq]

theorem splitPathFrom_nil (s : List Char) : splitPathFrom [] s = s.splitOn '/' :=
  splitPathFrom_eq [] s

theorem not_mem_of_mem_splitPathFrom {s : List Char} (hpart : '/' ∉ part) :
    ∀ p ∈ splitPathFrom part s, '/' ∉ p := by
  induction s generalizing part with
  | nil => simpa [splitPathFrom] using hpart
  | cons c s ih =>
      rw [splitPathFrom]
      split
      · refine List.forall_mem_cons.mpr ⟨by simpa using hpart, ih List.not_mem_nil⟩
      · next hc => exact ih (by simp [hpart, Ne.symm hc])

theorem splitPathFrom_intercalate (hne : parts ≠ []) (h : ∀ p ∈ parts, '/' ∉ p) :
    splitPathFrom [] (List.intercalate ['/'] parts) = parts := by
  rw [splitPathFrom_nil, List.splitOn_intercalate '/' h hne]

/-! ## The last part that means something -/

theorem getLast?_pathParts : (pathParts path).getLast? = some part ↔ EndsIn path part := by
  have hmeans : ∀ p : List Char, (p != [] && p != ['.']) = true ↔ p ≠ [] ∧ p ≠ ['.'] := by
    simp
  rw [pathParts, List.getLast?_filter, List.find?_eq_some_iff_append]
  constructor
  · rintro ⟨hpart, back, front, hsplit, hback⟩
    have hparts : splitPathFrom [] path = front.reverse ++ part :: back.reverse := by
      rw [← List.reverse_reverse (splitPathFrom [] path), hsplit]
      simp
    refine ⟨front.reverse, back.reverse, ?_, ?_, (hmeans part).mp hpart, fun p hp => ?_⟩
    · rw [← hparts, splitPathFrom_nil, List.intercalate_splitOn]
    · rw [← hparts]
      exact not_mem_of_mem_splitPathFrom List.not_mem_nil
    · simpa [Decidable.or_iff_not_imp_left] using hback p (List.mem_reverse.mp hp)
  · rintro ⟨front, back, rfl, hslash, hpart, hback⟩
    rw [splitPathFrom_intercalate (by simp) hslash]
    refine ⟨(hmeans part).mpr hpart, back.reverse, front.reverse, by simp, fun p hp => ?_⟩
    rcases hback p (List.mem_reverse.mp hp) with rfl | rfl <;> rfl

theorem fileName?_eq_some_iff :
    fileName? path = some name ↔ EndsIn path name ∧ name ≠ ['.', '.'] := by
  rw [fileName?, Option.filter_eq_some_iff, getLast?_pathParts, bne_iff_ne]

/-- A path ends in no file where it leads upwards or no part means anything. -/
theorem fileName?_eq_none_iff :
    fileName? path = none ↔ EndsIn path ['.', '.'] ∨ ∀ part, ¬EndsIn path part := by
  simp only [← getLast?_pathParts, fileName?, Option.filter_eq_none_iff]
  cases (pathParts path).getLast? with
  | none => simp
  | some part => simp

example : fileName? "src/../lib//means.src/./".toList = some "means.src".toList := by
  decide

example : fileName? "src/..".toList = none := by
  decide

end GaussMarkup
