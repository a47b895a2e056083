import GaussMarkup.Text.CharClass
import GaussMarkup.Text.Fold
import GaussMarkup.Text.Utf8
import Mathlib.Data.List.Forall2

/-!
# The case of ASCII letters

Two texts that differ in the case of ASCII letters only (`Recased`) are the same
in lower case. So what does not depend on case is what commutes with `lower`. Of
a question to a character that can be told from the 26 letters
(`toLower_congr`), and no class of characters tells the cases of a letter apart.
-/

namespace GaussMarkup

/-! ## Single characters -/

theorem toLower_ofNat : ∀ n < 26, (Char.ofNat (n + 65)).toLower = Char.ofNat (n + 97) := by
  decide

theorem toUpper_ofNat : ∀ n < 26, (Char.ofNat (n + 97)).toUpper = Char.ofNat (n + 65) := by
  decide

theorem isAlpha_ofNat : ∀ n < 26,
    (Char.ofNat (n + 97)).isAlpha = true ∧ (Char.ofNat (n + 65)).isAlpha = true := by
  decide

section Congr

variable {α : Type} {f : Char → α}
  (h : ∀ n < 26, f (Char.ofNat (n + 97)) = f (Char.ofNat (n + 65)))
include h

/-- What is the same for both cases of each letter is the same in lower case. -/
theorem toLower_congr (c : Char) : f c.toLower = f c := by
  by_cases hc : 65 ≤ c.toNat ∧ c.toNat ≤ 90
  · obtain ⟨n, hn⟩ := Nat.exists_eq_add_of_le' hc.1
    obtain rfl : c = Char.ofNat (n + 65) := by rw [← hn, Char.ofNat_toNat]
    have hlt : n < 26 := by omega
    rw [toLower_ofNat n hlt, h n hlt]
  · have heq : c.toLower = c := dif_neg hc
    rw [heq]

theorem toUpper_congr (c : Char) : f c.toUpper = f c := by
  by_cases hc : 97 ≤ c.toNat ∧ c.toNat ≤ 122
  · obtain ⟨n, hn⟩ := Nat.exists_eq_add_of_le' hc.1
    obtain rfl : c = Char.ofNat (n + 97) := by rw [← hn, Char.ofNat_toNat]
    have hlt : n < 26 := by omega
    rw [toUpper_ofNat n hlt, h n hlt]
  · have heq : c.toUpper = c := dif_neg hc
    rw [heq]

end Congr

/-- A sign is the same in every case, and no letter becomes one. -/
theorem toLower_eq_iff {d : Char} (hd : d.isAlpha = false) (c : Char) :
    c.toLower = d ↔ c = d := by
  have hletter : ∀ n < 26, decide (Char.ofNat (n + 97) = d) = decide (Char.ofNat (n + 65) = d) := by
    intro n hn
    have hlower : Char.ofNat (n + 97) ≠ d := by
      rintro rfl
      rw [(isAlpha_ofNat n hn).1] at hd
      cases hd
    have hupper : Char.ofNat (n + 65) ≠ d := by
      rintro rfl
      rw [(isAlpha_ofNat n hn).2] at hd
      cases hd
    simp [hlower, hupper]
  simpa using toLower_congr (f := fun c => decide (c = d)) hletter c

theorem map_toLower_eq_some_iff {d : Char} (hd : d.isAlpha = false) (o : Option Char) :
    o.map Char.toLower = some d ↔ o = some d := by
  cases o <;> simp [toLower_eq_iff hd]

@[simp] theorem fold_toLower (c : Char) : fold c.toLower = fold c :=
  toLower_congr (by decide) c

@[simp] theorem isBlank_toLower (c : Char) : isBlank c.toLower = isBlank c :=
  toLower_congr (by decide) c

@[simp] theorem isDigit_toLower (c : Char) : isDigit c.toLower = isDigit c :=
  toLower_congr (by decide) c

@[simp] theorem isNumeral_toLower (c : Char) : isNumeral c.toLower = isNumeral c :=
  toLower_congr (by decide) c

@[simp] theorem isAlphanumeric_toLower (c : Char) : isAlphanumeric c.toLower = isAlphanumeric c :=
  toLower_congr (by decide) c

@[simp] theorem isWordChar_toLower (c : Char) : isWordChar c.toLower = isWordChar c :=
  toLower_congr (by decide) c

@[simp] theorem isHexDigit_toLower (c : Char) : isHexDigit c.toLower = isHexDigit c :=
  toLower_congr (by decide) c

@[simp] theorem isOctalDigit_toLower (c : Char) : isOctalDigit c.toLower = isOctalDigit c :=
  toLower_congr (by decide) c

@[simp] theorem isNameStart_toLower (c : Char) : isNameStart c.toLower = isNameStart c :=
  toLower_congr (by decide) c

@[simp] theorem utf8Size_toLower (c : Char) : c.toLower.utf8Size = c.utf8Size :=
  toLower_congr (by decide) c

/-- A character is in lower case or in upper case already. -/
theorem toLower_eq_or_toUpper_eq (c : Char) : c.toLower = c ∨ c.toUpper = c := by
  by_cases hc : 65 ≤ c.toNat ∧ c.toNat ≤ 90
  · have hlow : ¬(97 ≤ c.toNat ∧ c.toNat ≤ 122) := by omega
    exact Or.inr (dif_neg hlow)
  · exact Or.inl (dif_neg hc)

theorem toUpper_toLower (c : Char) : c.toLower.toUpper = c.toUpper :=
  toLower_congr (by decide) c

/-! ## Texts -/

/-- A text with its ASCII letters in lower case. -/
def lower (s : List Char) : List Char :=
  s.map Char.toLower

/-- Two texts that differ in the case of ASCII letters only. -/
def Recased (s t : List Char) : Prop :=
  List.Forall₂ (fun c d => d = c ∨ d = c.toLower ∨ d = c.toUpper) s t

instance (s t : List Char) : Decidable (Recased s t) :=
  inferInstanceAs (Decidable (List.Forall₂ _ s t))

theorem Recased.lower_eq {s t : List Char} (h : Recased s t) : lower s = lower t := by
  induction h with
  | nil => rfl
  | @cons c d s t hd _ ih =>
      have hc : d.toLower = c.toLower := by
        rcases hd with rfl | rfl | rfl
        · rfl
        · exact toLower_congr (by decide) c
        · exact toUpper_congr (by decide) c
      simp only [lower, List.map_cons, hc]
      exact congrArg _ ih

theorem recased_iff {s t : List Char} : Recased s t ↔ lower s = lower t := by
  refine ⟨Recased.lower_eq, fun h => ?_⟩
  have hlower : List.Forall₂ (fun c d : Char => c.toLower = d.toLower) s t := by
    rw [← List.forall₂_map_right_iff, ← List.forall₂_map_left_iff, List.forall₂_eq_eq_eq]
    exact h
  refine hlower.imp fun {c d} hcd => ?_
  rcases toLower_eq_or_toUpper_eq d with hd | hd
  · exact Or.inr (Or.inl (hd.symm.trans hcd.symm))
  · refine Or.inr (Or.inr ?_)
    rw [← toUpper_toLower c, hcd, toUpper_toLower, hd]

@[simp] theorem lower_nil : lower [] = [] := rfl

@[simp] theorem lower_cons (c : Char) (s : List Char) : lower (c :: s) = c.toLower :: lower s := rfl

@[simp] theorem lower_append (s t : List Char) : lower (s ++ t) = lower s ++ lower t :=
  List.map_append

@[simp] theorem lower_eq_nil_iff {s : List Char} : lower s = [] ↔ s = [] :=
  List.map_eq_nil_iff

@[simp] theorem length_lower (s : List Char) : (lower s).length = s.length :=
  List.length_map _

@[simp] theorem map_fold_lower (s : List Char) : (lower s).map fold = s.map fold := by
  simp [lower]

@[simp] theorem byteSize_lower (s : List Char) : byteSize (lower s) = byteSize s := by
  induction s with
  | nil => rfl
  | cons c s ih => simp [ih]

@[simp] theorem take_lower (n : Nat) (s : List Char) : (lower s).take n = lower (s.take n) :=
  List.map_take.symm

@[simp] theorem drop_lower (n : Nat) (s : List Char) : (lower s).drop n = lower (s.drop n) :=
  List.map_drop.symm

@[simp] theorem reverse_lower (s : List Char) : (lower s).reverse = lower s.reverse :=
  List.map_reverse.symm

@[simp] theorem dropLast_lower (s : List Char) : (lower s).dropLast = lower s.dropLast :=
  List.map_dropLast.symm

@[simp] theorem head?_lower (s : List Char) : (lower s).head? = s.head?.map Char.toLower :=
  List.head?_map

@[simp] theorem getLast?_lower (s : List Char) : (lower s).getLast? = s.getLast?.map Char.toLower :=
  List.getLast?_map

@[simp] theorem isEmpty_lower (s : List Char) : (lower s).isEmpty = s.isEmpty :=
  List.isEmpty_map

theorem takeWhile_lower {p : Char → Bool} (hp : ∀ c, p c.toLower = p c) (s : List Char) :
    (lower s).takeWhile p = lower (s.takeWhile p) := by
  rw [lower, List.takeWhile_map, show p ∘ Char.toLower = p from funext hp, lower]

theorem dropWhile_lower {p : Char → Bool} (hp : ∀ c, p c.toLower = p c) (s : List Char) :
    (lower s).dropWhile p = lower (s.dropWhile p) := by
  rw [lower, List.dropWhile_map, show p ∘ Char.toLower = p from funext hp, lower]

/-! ## Texts without letters -/

/-- A text in which no ASCII letter occurs. -/
def Letterless (s : List Char) : Prop :=
  (s.all fun c => !c.isAlpha) = true

instance (s : List Char) : Decidable (Letterless s) :=
  inferInstanceAs (Decidable (_ = true))

@[simp] theorem letterless_nil : Letterless [] := rfl

@[simp] theorem letterless_cons {c : Char} {s : List Char} :
    Letterless (c :: s) ↔ c.isAlpha = false ∧ Letterless s := by
  simp [Letterless]

theorem Letterless.lower_eq {mark : List Char} (hmark : Letterless mark) : lower mark = mark := by
  induction mark with
  | nil => rfl
  | cons d mark ih =>
      obtain ⟨hd, hmark⟩ := letterless_cons.mp hmark
      rw [lower_cons, (toLower_eq_iff hd d).mpr rfl, ih hmark]

/-- Whether a text begins with some signs can be seen in any case. -/
theorem Letterless.isPrefixOf_lower {mark : List Char} (hmark : Letterless mark) (s : List Char) :
    mark.isPrefixOf (lower s) = mark.isPrefixOf s := by
  induction mark generalizing s with
  | nil => simp
  | cons d mark ih =>
      obtain ⟨hd, hmark⟩ := letterless_cons.mp hmark
      cases s with
      | nil => rfl
      | cons c s =>
          have hc : (d == c.toLower) = (d == c) := by
            rw [Bool.eq_iff_iff, beq_iff_eq, beq_iff_eq, eq_comm, toLower_eq_iff hd, eq_comm]
          rw [lower_cons, List.isPrefixOf_cons_cons, List.isPrefixOf_cons_cons, hc, ih hmark]

end GaussMarkup
