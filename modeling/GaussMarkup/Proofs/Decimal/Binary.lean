import GaussMarkup.Decimal.Binary
import Mathlib

/-!
# The order of binary numbers

Numbers of one format are compared by their places in a linear order, the whole
numbers with an end on either side (`lt_iff`). What is no number has no place: it is
neither less nor greater than anything, and it stays as it is between two bounds.
-/

namespace GaussMarkup

namespace Binary

variable {x y z : Binary}

/-- The place of a number among all numbers of its format. -/
def rank? : Binary → Option (WithBot (WithTop ℤ))
  | nan => none
  | infinite true => some ⊥
  | infinite false => some ((⊤ : WithTop ℤ) : WithBot (WithTop ℤ))
  | finite negative units => some ((signedUnits negative units : WithTop ℤ) : WithBot (WithTop ℤ))

theorem exists_rank? (hx : x ≠ nan) : ∃ a, x.rank? = some a := by
  match x with
  | nan => exact absurd rfl hx
  | infinite true | infinite false | finite _ _ => exact ⟨_, rfl⟩

theorem lt_iff : x.lt y = true ↔ ∃ a ∈ x.rank?, ∃ b ∈ y.rank?, a < b := by
  match x, y with
  | nan, _ => simp [lt, rank?]
  | infinite true, nan | infinite false, nan | finite _ _, nan => simp [lt, rank?]
  | infinite true, infinite true | infinite true, infinite false => simp [lt, rank?]
  | infinite false, infinite true | infinite false, infinite false => simp [lt, rank?]
  | infinite true, finite _ _ | infinite false, finite _ _ => simp [lt, rank?]
  | finite _ _, infinite true => simp [lt, rank?]
  | finite negative units, infinite false =>
      simpa [lt, rank?] using
        WithBot.coe_lt_coe.mpr (WithTop.coe_lt_top (signedUnits negative units))
  | finite _ _, finite _ _ => simp [lt, rank?]

theorem nan_lt (y : Binary) : nan.lt y = false := rfl

theorem ne_nan_of_lt (h : x.lt y = true) : x ≠ nan ∧ y ≠ nan := by
  obtain ⟨a, ha, b, hb, -⟩ := lt_iff.mp h
  constructor
  · rintro rfl
    cases ha
  · rintro rfl
    cases hb

theorem lt_asymm (h : x.lt y = true) : y.lt x = false := by
  obtain ⟨a, ha, b, hb, hab⟩ := lt_iff.mp h
  rw [← Bool.not_eq_true, lt_iff]
  rintro ⟨b', hb', a', ha', hba⟩
  obtain rfl := Option.mem_unique ha ha'
  obtain rfl := Option.mem_unique hb hb'
  exact hab.not_gt hba

/-- Of a smaller and a greater number, every number is above the one or below the other. -/
theorem lt_or_lt (h : x.lt z = true) (hy : y ≠ nan) : x.lt y = true ∨ y.lt z = true := by
  obtain ⟨a, ha, c, hc, hac⟩ := lt_iff.mp h
  obtain ⟨b, hb⟩ := exists_rank? hy
  rcases lt_or_ge a b with hab | hba
  · exact Or.inl (lt_iff.mpr ⟨a, ha, b, hb, hab⟩)
  · exact Or.inr (lt_iff.mpr ⟨b, hb, c, hc, hba.trans_lt hac⟩)

theorem lt_trans (hxy : x.lt y = true) (hyz : y.lt z = true) : x.lt z = true := by
  refine (lt_or_lt hxy (ne_nan_of_lt hyz).2).resolve_right ?_
  rw [lt_asymm hyz]
  exact Bool.false_ne_true

theorem clamp_eq_nan {low high : Binary} (hlow : low ≠ nan) (hhigh : high ≠ nan) :
    x.clamp low high = nan ↔ x = nan := by
  unfold clamp
  split
  · next h => exact iff_of_false hlow (ne_nan_of_lt h).1
  · split
    · next h => exact iff_of_false hhigh (ne_nan_of_lt h).2
    · exact Iff.rfl

end Binary

end GaussMarkup
