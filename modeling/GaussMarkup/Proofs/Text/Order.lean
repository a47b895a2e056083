import GaussMarkup.Text.Order
import Mathlib.Data.List.Basic

/-!
# Texts in order

Texts that are pairwise distinct stand in strict order after sorting.
-/

namespace GaussMarkup

theorem textLe_iff {s t : List Char} : textLe s t = true ↔ ¬List.Lex (· < ·) t s := by
  simp [textLe]

theorem textLe_trans (a b c : List Char) (hab : textLe a b = true) (hbc : textLe b c = true) :
    textLe a c = true := by
  rw [textLe_iff] at hab hbc ⊢
  exact List.le_trans hab hbc

theorem textLe_total (a b : List Char) : (textLe a b || textLe b a) = true := by
  rw [Bool.or_eq_true, textLe_iff, textLe_iff]
  exact List.le_total a b

theorem pairwise_sortTexts {ts : List (List Char)} (h : ts.Nodup) :
    (sortTexts ts).Pairwise (List.Lex (· < ·)) := by
  have hle : (sortTexts ts).Pairwise fun s t => textLe s t = true :=
    List.pairwise_mergeSort textLe_trans textLe_total ts
  have hne : (sortTexts ts).Nodup := (List.mergeSort_perm ts textLe).nodup_iff.mpr h
  refine (hle.and hne).imp fun {s t} hst => ?_
  obtain ⟨hst, hne⟩ := hst
  by_contra hts
  exact hne (List.le_antisymm (textLe_iff.mp hst) hts)

end GaussMarkup
