import Mathlib.Data.List.Basic

/-!
# Brackets in signatures

The reader of signatures looks at brackets in two ways. While it searches for
the equals sign of an assignment it counts brackets of all kinds together, and
an equals sign inside of brackets does not count; while it reads a list it
follows square brackets only. A `Bracketing` says which characters are looked
at. `Covered` says of a text, prefix by prefix, that some bracket is open
wherever one has to be, and `Paired` that none is open at its end. A text is
covered, or there is a first character that is not (`covered_or_exposed`).
-/

namespace GaussMarkup

/-- Characters that open and close brackets, and others that only stand where
some bracket is open. -/
structure Bracketing where
  opens : Char → Bool
  closes : Char → Bool
  inner : Char → Bool

/-- Whether a character opens a bracket of any kind. -/
def isOpening (c : Char) : Bool :=
  c = '(' ∨ c = '[' ∨ c = '{'

/-- Whether a character closes a bracket of any kind. -/
def isClosing (c : Char) : Bool :=
  c = ')' ∨ c = ']' ∨ c = '}'

/-- Brackets of all kinds taken together, and equals signs only inside of them. -/
def anyBracket : Bracketing :=
  ⟨isOpening, isClosing, (· == '=')⟩

/-- Square brackets alone. -/
def squareBracket : Bracketing :=
  ⟨(· == '['), (· == ']'), fun _ => false⟩

namespace Bracketing

variable {k : Bracketing} {d : Nat} {c : Char} {s t : List Char}

/-- With `d` brackets open in front of `s`, some bracket is open in front of
every character that closes one or only stands inside of one. -/
def Covered (k : Bracketing) (d : Nat) (s : List Char) : Prop :=
  ∀ a c b, s = a ++ c :: b → (k.closes c || k.inner c) = true →
    a.countP k.closes < d + a.countP k.opens

/-- Every bracket that a text closes it has opened before, none is left open,
and what only stands inside of brackets does so. -/
def Paired (k : Bracketing) (s : List Char) : Prop :=
  k.Covered 0 s ∧ s.countP k.opens = s.countP k.closes

/-- How many brackets are open behind `s`, if `d` are in front of it. -/
def openBehind (k : Bracketing) (d : Nat) (s : List Char) : Nat :=
  d + s.countP k.opens - s.countP k.closes

theorem covered_nil (k : Bracketing) (d : Nat) : k.Covered d [] := by
  intro a c b h
  simp at h

theorem countP_cons_eq (p : Char → Bool) (c : Char) (s : List Char) :
    (c :: s).countP p = [c].countP p + s.countP p := by
  rw [← List.singleton_append, List.countP_append]

/-- The count of open brackets is exact behind a character that closes only what
is open. -/
theorem openBehind_singleton (hc : (k.closes c || k.inner c) = true → 0 < d) :
    k.openBehind d [c] + [c].countP k.closes = d + [c].countP k.opens := by
  simp only [openBehind, List.countP_cons, List.countP_nil]
  cases hclose : k.closes c with
  | false => simp
  | true =>
      have hd := hc (by simp [hclose])
      simp only [if_true]
      omega

theorem openBehind_cons (hc : (k.closes c || k.inner c) = true → 0 < d) (s : List Char) :
    k.openBehind (k.openBehind d [c]) s = k.openBehind d (c :: s) := by
  have hsingle := openBehind_singleton hc
  have hopens := countP_cons_eq k.opens c s
  have hcloses := countP_cons_eq k.closes c s
  simp only [openBehind] at hsingle ⊢
  omega

/-- A text is covered if its first character is, and the others are with the
brackets that are open behind it. -/
theorem covered_cons : k.Covered d (c :: s) ↔
    ((k.closes c || k.inner c) = true → 0 < d) ∧ k.Covered (k.openBehind d [c]) s := by
  constructor
  · intro h
    have hfirst : (k.closes c || k.inner c) = true → 0 < d := by
      intro hc
      simpa using h [] c s rfl hc
    refine ⟨hfirst, fun a x b hs hx => ?_⟩
    have hcount := h (c :: a) x b (by simp [hs]) hx
    have hsingle := openBehind_singleton hfirst
    rw [countP_cons_eq k.opens, countP_cons_eq k.closes] at hcount
    omega
  · rintro ⟨hfirst, hrest⟩ a x b hs hx
    cases a with
    | nil =>
        obtain ⟨rfl, rfl⟩ := List.cons.inj hs
        simpa using hfirst hx
    | cons y a =>
        obtain ⟨rfl, rfl⟩ := List.cons.inj hs
        have hcount := hrest a x b rfl hx
        have hsingle := openBehind_singleton hfirst
        rw [countP_cons_eq k.opens, countP_cons_eq k.closes]
        omega

theorem Covered.countP_le (h : k.Covered d s) : s.countP k.closes ≤ d + s.countP k.opens := by
  induction s generalizing d with
  | nil => simp
  | cons c s ih =>
      obtain ⟨hfirst, hrest⟩ := covered_cons.mp h
      have hsingle := openBehind_singleton hfirst
      have hcount := ih hrest
      rw [countP_cons_eq k.opens, countP_cons_eq k.closes]
      omega

theorem Covered.mono {e : Nat} (h : k.Covered d s) (hde : d ≤ e) : k.Covered e s := by
  intro a c b hs hc
  have hcount := h a c b hs hc
  omega

theorem covered_append (hs : k.Covered d s) (ht : k.Covered (k.openBehind d s) t) :
    k.Covered d (s ++ t) := by
  induction s generalizing d with
  | nil => simpa [openBehind] using ht
  | cons c s ih =>
      obtain ⟨hfirst, hrest⟩ := covered_cons.mp hs
      rw [← openBehind_cons hfirst] at ht
      exact covered_cons.mpr ⟨hfirst, ih hrest ht⟩

/-- A text is covered, or there is a first character that should have a bracket
open and has none. -/
theorem covered_or_exposed (k : Bracketing) (d : Nat) (s : List Char) :
    k.Covered d s ∨ ∃ p c q, s = p ++ c :: q ∧ k.Covered d p ∧
      (k.closes c || k.inner c) = true ∧ p.countP k.closes = d + p.countP k.opens := by
  induction s generalizing d with
  | nil => exact .inl (covered_nil k d)
  | cons c s ih =>
      by_cases hfirst : (k.closes c || k.inner c) = true → 0 < d
      · rcases ih (k.openBehind d [c]) with hs | ⟨p, x, q, rfl, hp, hx, hcount⟩
        · exact .inl (covered_cons.mpr ⟨hfirst, hs⟩)
        · refine .inr ⟨c :: p, x, q, rfl, covered_cons.mpr ⟨hfirst, hp⟩, hx, ?_⟩
          have hsingle := openBehind_singleton hfirst
          rw [countP_cons_eq k.opens, countP_cons_eq k.closes]
          omega
      · rw [Classical.not_imp] at hfirst
        exact .inr ⟨[], c, s, rfl, covered_nil k d, hfirst.1, by simp; omega⟩

theorem Paired.openBehind_eq (h : k.Paired s) (d : Nat) : k.openBehind d s = d := by
  rw [openBehind, h.2]
  omega

theorem Paired.append (hs : k.Paired s) (ht : k.Paired t) : k.Paired (s ++ t) := by
  refine ⟨covered_append hs.1 (ht.1.mono (Nat.zero_le _)), ?_⟩
  rw [List.countP_append, List.countP_append, hs.2, ht.2]

/-- Brackets around a text that is paired. -/
theorem Paired.enclose {o : Char} (hs : k.Paired s) (ho : k.opens o = true)
    (ho' : (k.closes o || k.inner o) = false) (hc : k.closes c = true)
    (hc' : k.opens c = false) : k.Paired (o :: (s ++ [c])) := by
  have hclose : k.closes o = false := (Bool.or_eq_false_iff.mp ho').1
  have hbehind : k.openBehind 0 [o] = 1 := by simp [openBehind, ho, hclose]
  constructor
  · refine covered_cons.mpr ⟨by simp [ho'], ?_⟩
    rw [hbehind]
    refine covered_append (hs.1.mono (Nat.zero_le _)) (covered_cons.mpr ⟨fun _ => ?_, ?_⟩)
    · rw [hs.openBehind_eq]
      exact Nat.one_pos
    · exact covered_nil _ _
  · simp [hs.2, ho, hclose, hc, hc']

theorem Covered.of_append (h : k.Covered d (s ++ t)) : k.Covered d s := by
  intro a c b hs hc
  exact h a c (b ++ t) (by simp [hs]) hc

/-! ## Characters that are not looked at -/

/-- A character that is no bracket and need not stand inside of one. -/
def Ignores (k : Bracketing) (c : Char) : Prop :=
  k.opens c = false ∧ k.closes c = false ∧ k.inner c = false

instance (k : Bracketing) (c : Char) : Decidable (k.Ignores c) :=
  inferInstanceAs (Decidable (_ ∧ _ ∧ _))

/-- A text without any of the characters that are looked at. -/
theorem paired_of_ignores (h : ∀ c ∈ s, k.Ignores c) : k.Paired s := by
  constructor
  · intro a c b hs hc
    have hmem := h c (by simp [hs])
    simp [hmem.2.1, hmem.2.2] at hc
  · rw [List.countP_eq_zero.mpr fun c hc => by simp [(h c hc).1],
      List.countP_eq_zero.mpr fun c hc => by simp [(h c hc).2.1]]

/-- In front of a text such characters do not matter. -/
theorem covered_append_of_ignores (h : ∀ c ∈ s, k.Ignores c) (t : List Char) :
    k.Covered d (s ++ t) ↔ k.Covered d t := by
  induction s with
  | nil => rfl
  | cons c s ih =>
      obtain ⟨⟨hopen, hclose, hinner⟩, hs⟩ := List.forall_mem_cons.mp h
      have hbehind : k.openBehind d [c] = d := by simp [openBehind, hopen, hclose]
      rw [List.cons_append, covered_cons, hbehind, ih hs]
      simp [hclose, hinner]

theorem Paired.of_append_of_ignores (h : k.Paired (s ++ t)) (hs : ∀ c ∈ s, k.Ignores c) :
    k.Paired t := by
  have hcount := h.2
  rw [List.countP_append, List.countP_append, (paired_of_ignores hs).2] at hcount
  exact ⟨(covered_append_of_ignores hs t).mp h.1, Nat.add_left_cancel hcount⟩

end Bracketing

end GaussMarkup
