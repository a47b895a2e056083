import GaussMarkup.Proofs.Source.Prepare
import Mathlib.Data.List.Basic

/-!
# Tabs and columns

A tab moves to the next tab stop: in the text that comes out, the character behind it
stands in a column that is a multiple of the width of a tab. The expansion counts the
columns itself and never looks back at what it wrote, so the invariant is that its count
is the column in which its own output ends (`expandTabsFrom_append`). From it follow
both what a further character adds to the expansion of a text (`expandTabs_concat`) and
that no line depends on the one before it (`expandTabs_line`).
-/

namespace GaussMarkup

/-- The column behind a text: the number of characters since its last line feed. -/
def columnOf (s : List Char) : Nat :=
  (s.reverse.takeWhile (· != '\n')).length

/-- The column behind a text that begins in some column. -/
def columnBehind (column : Nat) (s : List Char) : Nat :=
  s.foldl (fun n c => if c = '\n' then 0 else n + 1) column

/-- The second text is the first with its tabs as spaces, character by character: a tab
is at least one space and at most as many as a tab is wide, and behind them the column is
a multiple of the width. All else is as it was. -/
inductive TabsFilled (size : Nat) : List Char → List Char → Prop
  | nil : TabsFilled size [] []
  | char {s t : List Char} {c : Char} :
      c ≠ '\t' → TabsFilled size s t → TabsFilled size (s ++ [c]) (t ++ [c])
  | tab {s t : List Char} {n : Nat} :
      1 ≤ n → n ≤ size → columnOf (t ++ List.replicate n ' ') % size = 0 →
        TabsFilled size s t → TabsFilled size (s ++ ['\t']) (t ++ List.replicate n ' ')

variable {size column : Nat} {c : Char} {s t : List Char}

/-! ## Columns -/

theorem columnBehind_append (column : Nat) (s t : List Char) :
    columnBehind column (s ++ t) = columnBehind (columnBehind column s) t :=
  List.foldl_append ..

theorem columnBehind_spaces (column n : Nat) :
    columnBehind column (List.replicate n ' ') = column + n := by
  induction n generalizing column with
  | zero => rfl
  | succ n ih =>
      rw [List.replicate_succ]
      exact (ih (column + 1)).trans (Nat.succ_add_eq_add_succ column n)

theorem columnOf_concat (s : List Char) (c : Char) :
    columnOf (s ++ [c]) = if c = '\n' then 0 else columnOf s + 1 := by
  rw [columnOf, List.reverse_concat, List.takeWhile_cons]
  by_cases hc : c = '\n'
  · simp [hc]
  · simp [hc, columnOf]

theorem columnBehind_zero (s : List Char) : columnBehind 0 s = columnOf s := by
  induction s using List.reverseRecOn with
  | nil => rfl
  | append_singleton s c ih =>
      rw [columnBehind_append, ih, columnOf_concat]
      rfl

/-! ## The expansion of a longer text -/

/-- The count of the expansion is the column behind what it wrote. -/
theorem expandTabsFrom_append (size column : Nat) (s t : List Char) :
    expandTabsFrom size column (s ++ t) =
      expandTabsFrom size column s ++
        expandTabsFrom size (columnBehind column (expandTabsFrom size column s)) t := by
  fun_induction expandTabsFrom size column s with
  | case1 column => rfl
  | case2 column s ih =>
      rw [List.cons_append, expandTabsFrom, if_pos rfl, ih, columnBehind_append,
        columnBehind_spaces, List.append_assoc]
  | case3 column s htab ih =>
      rw [List.cons_append, expandTabsFrom, if_neg htab, if_pos rfl, ih]
      rfl
  | case4 column c s htab hfeed ih =>
      rw [List.cons_append, expandTabsFrom, if_neg htab, if_neg hfeed, ih]
      simp [columnBehind, hfeed]

theorem expandTabs_append (size : Nat) (s t : List Char) :
    expandTabs size (s ++ t) =
      expandTabs size s ++ expandTabsFrom size (columnOf (expandTabs size s)) t := by
  rw [expandTabs, expandTabsFrom_append, columnBehind_zero]
  rfl

theorem expandTabs_line (size : Nat) (s t : List Char) :
    expandTabs size (s ++ '\n' :: t) = expandTabs size s ++ '\n' :: expandTabs size t := by
  rw [expandTabs_append, expandTabsFrom, if_neg (by decide), if_pos rfl]
  rfl

theorem expandTabs_concat_of_ne (h : c ≠ '\t') (size : Nat) (s : List Char) :
    expandTabs size (s ++ [c]) = expandTabs size s ++ [c] := by
  rw [expandTabs_append, expandTabsFrom, if_neg h]
  simp [expandTabsFrom]

theorem expandTabs_concat_tab (size : Nat) (s : List Char) :
    expandTabs size (s ++ ['\t']) = expandTabs size s ++
      List.replicate (size - columnOf (expandTabs size s) % size) ' ' := by
  rw [expandTabs_append, expandTabsFrom, if_pos rfl, expandTabsFrom, List.append_nil]

/-! ## Tab stops -/

theorem columnOf_spaces (s : List Char) (n : Nat) :
    columnOf (s ++ List.replicate n ' ') = columnOf s + n := by
  rw [← columnBehind_zero, columnBehind_append, columnBehind_zero, columnBehind_spaces]

/-- Between a column and the next tab stop behind it there is one distance only. -/
theorem tabStop_iff {n : Nat} (hsize : 0 < size) (column : Nat) :
    (1 ≤ n ∧ n ≤ size ∧ (column + n) % size = 0) ↔ n = size - column % size := by
  have hrest : column % size < size := Nat.mod_lt column hsize
  rw [← Nat.mod_add_mod]
  constructor
  · rintro ⟨hpos, hle, hstop⟩
    -- The sum is less than twice the width, so the stop is the width itself.
    have hsum : size ≤ column % size + n := by
      by_contra hlt
      rw [Nat.mod_eq_of_lt (Nat.lt_of_not_le hlt)] at hstop
      omega
    rw [Nat.mod_eq_sub_mod hsum, Nat.mod_eq_of_lt (by omega)] at hstop
    omega
  · rintro rfl
    rw [Nat.add_sub_cancel' hrest.le, Nat.mod_self]
    omega

theorem tabsFilled_expandTabs (hsize : 0 < size) (s : List Char) :
    TabsFilled size s (expandTabs size s) := by
  induction s using List.reverseRecOn with
  | nil => exact .nil
  | append_singleton s c ih =>
      by_cases hc : c = '\t'
      · subst hc
        obtain ⟨hpos, hle, hstop⟩ := (tabStop_iff hsize (columnOf (expandTabs size s))).mpr rfl
        rw [expandTabs_concat_tab]
        exact .tab hpos hle (by rwa [columnOf_spaces]) ih
      · rw [expandTabs_concat_of_ne hc]
        exact .char hc ih

theorem TabsFilled.eq_expandTabs (hsize : 0 < size) (h : TabsFilled size s t) :
    t = expandTabs size s := by
  induction h with
  | nil => rfl
  | char hc _ ih => rw [expandTabs_concat_of_ne hc, ih]
  | tab hpos hle hstop _ ih =>
      subst ih
      rw [columnOf_spaces] at hstop
      rw [expandTabs_concat_tab, ← (tabStop_iff hsize _).mp ⟨hpos, hle, hstop⟩]

/-- **Expanding tabs keeps columns.** The expansion of a text is the text with each tab
as the spaces up to the next tab stop of the expansion, and it is made line by line. -/
theorem expandTabs_keeps_columns (size : Nat) (hsize : 0 < size) :
    (∀ s t, TabsFilled size s t ↔ t = expandTabs size s) ∧
      ∀ s t, expandTabs size (s ++ '\n' :: t) =
        expandTabs size s ++ '\n' :: expandTabs size t := by
  refine ⟨fun s t => ⟨fun h => h.eq_expandTabs hsize, ?_⟩, expandTabs_line size⟩
  rintro rfl
  exact tabsFilled_expandTabs hsize s

/-- A tab behind two characters, and one at the start of a line. -/
theorem expandTabs_keeps_columns_four :
    0 < 4 ∧ TabsFilled 4 "ab\tc\n\t\u00e9".toList "ab  c\n    \u00e9".toList :=
  ⟨by decide, ((expandTabs_keeps_columns 4 (by decide)).1 _ _).mpr (by decide)⟩

end GaussMarkup
