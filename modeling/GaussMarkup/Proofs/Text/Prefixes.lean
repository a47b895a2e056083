import Mathlib.Data.List.Basic

/-!
# Shortest and longest prefixes

A comment ends at the first place that can end it, so its text is the shortest
prefix of the text in front of the cursor that ends so. A number goes on as far
as it can, so its text is the longest prefix that is a number. Either prefix is
unique where there is one.
-/

namespace GaussMarkup

/-- The shortest prefix `p` of a text that has a property. -/
structure Shortest (P : List Char → Prop) (s p : List Char) : Prop where
  front : p <+: s
  holds : P p
  least : ∀ q, q <+: s → P q → p.length ≤ q.length

/-- No prefix of a text has a property. -/
def Lacks (P : List Char → Prop) (s : List Char) : Prop :=
  ∀ q, q <+: s → ¬P q

/-- The shortest prefix with a property, or all of the text where no prefix has
it. -/
def ShortestOrAll (P : List Char → Prop) (s p : List Char) : Prop :=
  Shortest P s p ∨ (p = s ∧ Lacks P s)

/-- The longest prefix `p` of a text that has a property. -/
structure Longest (P : List Char → Prop) (s p : List Char) : Prop where
  front : p <+: s
  holds : P p
  greatest : ∀ q, q <+: s → P q → q.length ≤ p.length

variable {P Q : List Char → Prop} {s t p q : List Char}

/-! ## Shortest prefixes -/

theorem Shortest.unique (hp : Shortest P s p) (hq : Shortest P s q) : p = q := by
  have hle := hp.least q hq.front hq.holds
  have hge := hq.least p hp.front hp.holds
  exact (List.prefix_of_prefix_length_le hp.front hq.front hle).eq_of_length
    (Nat.le_antisymm hle hge)

theorem ShortestOrAll.unique (hp : ShortestOrAll P s p) (hq : ShortestOrAll P s q) : p = q := by
  rcases hp with hp | ⟨rfl, hlacks⟩
  · rcases hq with hq | ⟨-, hlacks⟩
    · exact hp.unique hq
    · exact absurd hp.holds (hlacks p hp.front)
  · rcases hq with hq | ⟨rfl, -⟩
    · exact absurd hq.holds (hlacks q hq.front)
    · rfl

/-- A shorter text that still has a prefix with the property has the same one. -/
theorem Shortest.of_front (h : Shortest P s p) (ht : t <+: s) (hq : q <+: t) (hP : P q) :
    Shortest P t p where
  front := by
    have hle := h.least q (hq.trans ht) hP
    exact (List.prefix_of_prefix_length_le h.front (hq.trans ht) hle).trans hq
  holds := h.holds
  least r hr := h.least r (hr.trans ht)

/-- Of the prefixes with a property one is the shortest. -/
theorem exists_shortest {q : List Char} (hq : q <+: s) (hP : P q) : ∃ p, Shortest P s p := by
  by_cases hleast : ∀ r, r <+: s → P r → q.length ≤ r.length
  · exact ⟨q, hq, hP, hleast⟩
  · simp only [not_forall, Nat.not_le] at hleast
    obtain ⟨r, hr, hPr, hlt⟩ := hleast
    exact exists_shortest hr hPr
termination_by q.length

/-- What follows a shortest prefix does not matter. -/
theorem Shortest.append_right (h : Shortest P p p) (t : List Char) : Shortest P (p ++ t) p where
  front := List.prefix_append p t
  holds := h.holds
  least q hq hP := by
    refine Nat.le_of_not_lt fun hlt => ?_
    have hfront := List.prefix_of_prefix_length_le hq (List.prefix_append p t) (Nat.le_of_lt hlt)
    exact absurd (h.least q hfront hP) (Nat.not_le_of_lt hlt)

/-- The prefixes of a text with something in front of it are that with the
prefixes of the text, as far as they have the property. -/
theorem Shortest.append {a : List Char} (h : Shortest Q t p)
    (hlong : ∀ q, q <+: a ++ t → P q → a <+: q) (hP : ∀ q, q <+: t → (P (a ++ q) ↔ Q q)) :
    Shortest P (a ++ t) (a ++ p) where
  front := (List.prefix_append_right_inj a).mpr h.front
  holds := (hP p h.front).mpr h.holds
  least r hr hPr := by
    obtain ⟨q, rfl⟩ := hlong r hr hPr
    have hq := (List.prefix_append_right_inj a).mp hr
    have hle := h.least q hq ((hP q hq).mp hPr)
    simp only [List.length_append]
    omega

theorem Lacks.append {a : List Char} (h : Lacks Q t)
    (hlong : ∀ q, q <+: a ++ t → P q → a <+: q) (hP : ∀ q, q <+: t → (P (a ++ q) ↔ Q q)) :
    Lacks P (a ++ t) := by
  intro r hr hPr
  obtain ⟨q, rfl⟩ := hlong r hr hPr
  have hq := (List.prefix_append_right_inj a).mp hr
  exact h q hq ((hP q hq).mp hPr)

theorem singleton_prefix_of_ne_nil {c : Char} (hq : q <+: c :: t) (hne : q ≠ []) : [c] <+: q := by
  obtain ⟨d, r, rfl⟩ := List.exists_cons_of_ne_nil hne
  obtain ⟨rfl, -⟩ := List.cons_prefix_cons.mp hq
  exact ⟨r, rfl⟩

/-! ## Longest prefixes -/

theorem Longest.prefix_of (h : Longest P s p) (hq : q <+: s) (hP : P q) : q <+: p :=
  List.prefix_of_prefix_length_le hq h.front (h.greatest q hq hP)

theorem Longest.unique (hp : Longest P s p) (hq : Longest P s q) : p = q :=
  (hq.prefix_of hp.front hp.holds).eq_of_length_le (hp.greatest q hq.front hq.holds)

/-- A prefix that consists of characters of a class is part of the run of them. -/
theorem prefix_takeWhile {f : Char → Bool} (hp : p <+: s) (h : ∀ c ∈ p, f c = true) :
    p <+: s.takeWhile f := by
  obtain ⟨t, rfl⟩ := hp
  rw [List.takeWhile_append_of_pos h]
  exact List.prefix_append ..

/-- What stands in front of the first mark, and the rest from there on. -/
theorem takeWhile_ne_of_not_mem {α : Type} [BEq α] [LawfulBEq α] {stop : α}
    {front : List α} (h : stop ∉ front) (rest : List α) :
    (front ++ stop :: rest).takeWhile (· != stop) = front ∧
      (front ++ stop :: rest).dropWhile (· != stop) = stop :: rest := by
  have hfront : ∀ a ∈ front, (a != stop) = true := fun a ha =>
    bne_iff_ne.mpr fun heq => h (heq ▸ ha)
  rw [List.takeWhile_append_of_pos hfront, List.dropWhile_append_of_pos hfront]
  simp

end GaussMarkup
