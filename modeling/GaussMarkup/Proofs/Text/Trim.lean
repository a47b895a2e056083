import GaussMarkup.Text.Trim
import Mathlib.Data.List.DropRight

/-!
# Trimmed texts

A character that is no blank keeps all that stands between it and another one:
behind it only the end of a text is trimmed, and in front of it only the start
(`trim_append_cons`). Blanks around a text do not change what trimming leaves of
it (`trim_pad`).
-/

namespace GaussMarkup

variable {p : Char → Bool} {c : Char} {s : List Char}

/-! ## The end of a text -/

theorem dropEndWhile_eq_rdropWhile (p : Char → Bool) (s : List Char) :
    dropEndWhile p s = s.rdropWhile p := by
  induction s with
  | nil => rfl
  | cons c s ih =>
      rw [List.rdropWhile, List.reverse_cons, List.dropWhile_append, dropEndWhile, ih,
        List.rdropWhile]
      cases h : s.reverse.dropWhile p with
      | nil => by_cases hc : p c <;> simp [hc]
      | cons d t =>
          obtain ⟨e, u, hu⟩ := List.exists_cons_of_ne_nil
            (show (d :: t).reverse ≠ [] by simp)
          rw [hu, ← List.reverse_reverse (d :: t), hu]
          simp

theorem dropEndWhile_append_of_all {v : List Char} (hv : ∀ d ∈ v, p d = true) (s : List Char) :
    dropEndWhile p (s ++ v) = dropEndWhile p s := by
  have hrev : ∀ d ∈ v.reverse, p d = true := fun d hd => hv d (List.mem_reverse.mp hd)
  rw [dropEndWhile_eq_rdropWhile, dropEndWhile_eq_rdropWhile, List.rdropWhile,
    List.reverse_append, List.dropWhile_append_of_pos hrev, List.rdropWhile]

theorem dropEndWhile_cons_of_neg (hc : p c = false) (t : List Char) :
    dropEndWhile p (c :: t) = c :: dropEndWhile p t := by
  rw [dropEndWhile]
  cases dropEndWhile p t with
  | nil => simp [hc]
  | cons d u => rfl

/-- Nothing in front of a character that stays is dropped. -/
theorem dropEndWhile_append_cons (hc : p c = false) (s t : List Char) :
    dropEndWhile p (s ++ c :: t) = s ++ c :: dropEndWhile p t := by
  induction s with
  | nil => exact dropEndWhile_cons_of_neg hc t
  | cons d s ih =>
      rw [List.cons_append, dropEndWhile, ih]
      cases s <;> rfl

/-! ## Both ends -/

theorem dropWhile_append_cons (hc : p c = false) (s t : List Char) :
    (s ++ c :: t).dropWhile p = s.dropWhile p ++ c :: t := by
  rw [List.dropWhile_append]
  cases h : s.dropWhile p <;> simp [hc]

/-- On either side of a character that is no blank, one end is trimmed. -/
theorem trim_append_cons (hc : isBlank c = false) (s t : List Char) :
    trim (s ++ c :: t) = s.dropWhile isBlank ++ c :: dropEndWhile isBlank t := by
  rw [trim, trimWhere, dropWhile_append_cons hc, dropEndWhile_append_cons hc]

/-- A text between two characters that are no blanks is trimmed. -/
theorem trim_cons_concat {d : Char} (hc : isBlank c = false) (hd : isBlank d = false)
    (s : List Char) : trim (c :: (s ++ [d])) = c :: (s ++ [d]) := by
  have hcons := trim_append_cons hc [] (s ++ [d])
  rwa [dropEndWhile_append_cons hd] at hcons

theorem trim_of_blanks (h : ∀ d ∈ s, isBlank d = true) : trim s = [] := by
  rw [trim, trimWhere, List.dropWhile_eq_nil_iff.mpr h]
  rfl

/-- Unwanted characters around a text do not matter. -/
theorem trimWhere_pad {w v : List Char} (hw : ∀ d ∈ w, p d = true) (hv : ∀ d ∈ v, p d = true)
    (s : List Char) : trimWhere p (w ++ (s ++ v)) = trimWhere p s := by
  rw [trimWhere, List.dropWhile_append_of_pos hw, List.dropWhile_append]
  cases h : s.dropWhile p with
  | nil =>
      rw [List.dropWhile_eq_nil_iff.mpr hv, trimWhere, h]
      rfl
  | cons d t =>
      rw [trimWhere, h]
      exact dropEndWhile_append_of_all hv (d :: t)

/-- Blanks around a text do not matter. -/
theorem trim_pad {w v : List Char} (hw : ∀ d ∈ w, isBlank d = true)
    (hv : ∀ d ∈ v, isBlank d = true) (s : List Char) : trim (w ++ (s ++ v)) = trim s :=
  trimWhere_pad hw hv s

/-- A text with only its start trimmed trims to the same. -/
theorem trim_dropWhile (s : List Char) : trim (s.dropWhile isBlank) = trim s := by
  rw [trim, trim, trimWhere, trimWhere, List.dropWhile_idempotent]

/-- A text with only its end trimmed trims to the same. -/
theorem trim_dropEndWhile (s : List Char) : trim (dropEndWhile isBlank s) = trim s := by
  obtain ⟨run, hrun, hs⟩ := exists_dropEndWhile_append isBlank s
  have hpad := trim_pad (w := []) (by simp) hrun (dropEndWhile isBlank s)
  rw [List.nil_append, ← hs] at hpad
  exact hpad.symm

theorem length_trim_le (s : List Char) : (trim s).length ≤ s.length := by
  obtain ⟨run, -, hrun⟩ := exists_dropEndWhile_append isBlank (s.dropWhile isBlank)
  have hlength := congrArg List.length hrun
  have hdrop := (List.dropWhile_sublist (l := s) isBlank).length_le
  rw [List.length_append] at hlength
  exact (Nat.le_add_right _ _).trans (hlength ▸ hdrop)

/-- A trimmed text begins with no blank. -/
theorem isBlank_head_of_trim_eq (h : trim (c :: s) = c :: s) : isBlank c = false := by
  refine Bool.eq_false_iff.mpr fun hc => ?_
  have hpad := trim_pad (w := [c]) (v := []) (by simpa using hc) (by simp) s
  rw [List.append_nil, List.singleton_append, h] at hpad
  have hlength := length_trim_le s
  rw [← hpad, List.length_cons] at hlength
  omega

/-! ## Texts that are trimmed -/

/-- No unwanted character stands at an end of a text. -/
structure Trimmed (p : Char → Bool) (s : List Char) : Prop where
  head : ∀ c ∈ s.head?, p c = false
  last : ∀ c ∈ s.getLast?, p c = false

theorem trimmed_trimWhere (p : Char → Bool) (s : List Char) : Trimmed p (trimWhere p s) := by
  have hlast : ∀ t, ∀ c ∈ (dropEndWhile p t).getLast?, p c = false := by
    intro t c hc
    rw [dropEndWhile_eq_rdropWhile] at hc
    obtain ⟨hne, rfl⟩ := List.mem_getLast?_eq_getLast hc
    exact Bool.eq_false_iff.mpr (List.rdropWhile_last_not p t hne)
  refine ⟨fun c hc => ?_, hlast _⟩
  have hfirst := List.head?_dropWhile_not p s
  rw [trimWhere] at hc
  cases h : s.dropWhile p with
  | nil =>
      rw [h] at hc
      cases hc
  | cons d t =>
      rw [h] at hfirst hc
      rw [dropEndWhile_cons_of_neg hfirst] at hc
      obtain rfl := Option.some.inj hc
      exact hfirst

theorem trimWhere_of_trimmed (h : Trimmed p s) : trimWhere p s = s := by
  have hdrop : s.dropWhile p = s := by
    cases s with
    | nil => rfl
    | cons c s => exact List.dropWhile_cons_of_neg (by simp [h.head c rfl])
  rw [trimWhere, hdrop, dropEndWhile_eq_rdropWhile, List.rdropWhile_eq_self_iff]
  intro hne
  rw [h.last _ (List.getLast_mem_getLast? hne)]
  exact Bool.false_ne_true

theorem mem_of_mem_trimWhere (h : c ∈ trimWhere p s) : c ∈ s := by
  obtain ⟨run, -, hrun⟩ := exists_dropEndWhile_append p (s.dropWhile p)
  refine (List.dropWhile_sublist p).subset ?_
  rw [hrun]
  exact List.mem_append_left run h

end GaussMarkup
