import GaussMarkup.Text.CharClass

/-!
# Trimming

Taking unwanted characters off the end of a text, or off both its ends.
-/

namespace GaussMarkup

/-- The text `s` without the longest run of `p` at its end. -/
def dropEndWhile (p : Char → Bool) : List Char → List Char
  | [] => []
  | c :: s =>
    match dropEndWhile p s with
    | [] => if p c then [] else [c]
    | d :: t => c :: d :: t

/-- The text `s` without the runs of `p` at its ends. -/
def trimWhere (p : Char → Bool) (s : List Char) : List Char :=
  dropEndWhile p (s.dropWhile p)

/-- The text `s` without the blanks at its ends. -/
def trim (s : List Char) : List Char :=
  trimWhere isBlank s

/-- Only characters of the run are lost. -/
theorem exists_dropEndWhile_append (p : Char → Bool) :
    ∀ s : List Char, ∃ run : List Char, (∀ c ∈ run, p c = true) ∧ s = dropEndWhile p s ++ run
  | [] => ⟨[], by simp, rfl⟩
  | c :: s => by
      obtain ⟨run, hp, hs⟩ := exists_dropEndWhile_append p s
      cases hd : dropEndWhile p s with
      | nil =>
          rw [hd] at hs
          by_cases hc : p c
          · refine ⟨c :: s, ?_, by simp [dropEndWhile, hd, hc]⟩
            intro d hmem
            rcases List.mem_cons.1 hmem with rfl | hmem
            · exact hc
            · exact hp d (by simpa [hs] using hmem)
          · exact ⟨s, by simpa [hs] using hp, by simp [dropEndWhile, hd, hc]⟩
      | cons d t =>
          rw [hd] at hs
          exact ⟨run, hp, by simpa [dropEndWhile, hd] using hs⟩

end GaussMarkup
