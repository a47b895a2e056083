import GaussMarkup.Text.CharClass
import Mathlib.Data.List.Chain

/-!
# How character classes lie to each other

No blank is a digit, and every digit is a numeral. Both are facts about tables of
code points. The tables are in order, so what lies in one of the ranges of a table
is found in it (`inRanges_of_mem`), and the ranges themselves are compared by
going through the tables.
-/

namespace GaussMarkup

/-- The code points of the blanks. -/
def blankCodes : List Nat :=
  [9, 10, 11, 12, 13, 0x20, 0x85, 0xA0, 0x1680, 0x2000, 0x2001, 0x2002, 0x2003, 0x2004, 0x2005,
    0x2006, 0x2007, 0x2008, 0x2009, 0x200A, 0x2028, 0x2029, 0x202F, 0x205F, 0x3000]

theorem isDigit_of_isBlank {c : Char} (h : isBlank c = true) : isDigit c = false := by
  have hcode : c.toNat ∈ blankCodes := by
    simp only [isBlank, Bool.or_eq_true, Bool.and_eq_true, decide_eq_true_eq, beq_iff_eq] at h
    simp only [blankCodes, List.mem_cons, List.not_mem_nil, or_false]
    omega
  have hcodes : ∀ n ∈ blankCodes, isDigit (Char.ofNat n) = false := by decide
  rw [← Char.ofNat_toNat c]
  exact hcodes _ hcode

/-- A table in order holds what lies in one of its ranges. -/
theorem inRanges_of_mem {n : Nat} {rs : List (Nat × Nat)}
    (hrs : rs.Pairwise fun a b => a.1 ≤ b.1) {r : Nat × Nat} (hr : r ∈ rs) (hlow : r.1 ≤ n)
    (hhigh : n ≤ r.2) : inRanges n rs = true := by
  induction rs with
  | nil => cases hr
  | cons q rs ih =>
      obtain ⟨hq, hrs⟩ := List.pairwise_cons.mp hrs
      simp only [inRanges, Bool.and_eq_true, Bool.or_eq_true, decide_eq_true_eq]
      rcases List.mem_cons.mp hr with rfl | hr
      · exact ⟨hlow, Or.inl hhigh⟩
      · exact ⟨(hq r hr).trans hlow, Or.inr (ih hrs hr)⟩

set_option maxRecDepth 20000 in
theorem pairwise_numeralRanges : numeralRanges.Pairwise fun a b => a.1 ≤ b.1 :=
  List.isChain_iff_pairwise.mp (by decide)

set_option maxRecDepth 20000 in
theorem isNumeral_of_isDigit {c : Char} (h : isDigit c = true) : isNumeral c = true := by
  unfold isDigit at h
  unfold isNumeral
  split
  · next hascii => rwa [if_pos hascii] at h
  · next hascii =>
    rw [if_neg hascii] at h
    obtain ⟨r, hr, hlow, hhigh⟩ := exists_range_of_inRanges h
    have hinside : ∀ r ∈ digitRanges, ∃ q ∈ numeralRanges, q.1 ≤ r.1 ∧ r.2 ≤ q.2 := by decide
    obtain ⟨q, hq, hlow', hhigh'⟩ := hinside r hr
    exact inRanges_of_mem pairwise_numeralRanges hq (hlow'.trans hlow) (hhigh.trans hhigh')

end GaussMarkup
