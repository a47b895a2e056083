/-!
# Ordered ranges of code points

The tables of character properties list the code points that have the property as closed ranges,
in increasing order and without overlap. Looking a code point up stops at the first range that
begins above it.
-/

namespace GaussMarkup

/-- Whether `n` lies in one of the ordered ranges. -/
def inRanges (n : Nat) : List (Nat × Nat) → Bool
  | [] => false
  | (lo, hi) :: rest => lo ≤ n && (n ≤ hi || inRanges n rest)

/-- A code point that a table holds lies in one of its ranges. -/
theorem exists_range_of_inRanges {n : Nat} :
    ∀ {rs : List (Nat × Nat)}, inRanges n rs = true → ∃ r ∈ rs, r.1 ≤ n ∧ n ≤ r.2
  | [], h => by simp [inRanges] at h
  | (lo, hi) :: rest, h => by
      simp only [inRanges, Bool.and_eq_true, Bool.or_eq_true, decide_eq_true_eq] at h
      rcases h.2 with hhi | hrest
      · exact ⟨(lo, hi), by simp, h.1, hhi⟩
      · obtain ⟨r, hr, hb⟩ := exists_range_of_inRanges hrest
        exact ⟨r, by simp [hr], hb⟩

end GaussMarkup
