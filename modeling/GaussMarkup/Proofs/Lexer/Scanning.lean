import GaussMarkup.Lexer.Word

/-!
# What the scanners take

Each scanner of `GaussMarkup.Lexer.Cut` is described by an equivalence: when it
takes something, what that is, and what it leaves. The rules are built from
these scanners, so what a rule finds is read off here and no scanner has to be
opened again.
-/

namespace GaussMarkup

theorem cutRun?_eq_some {p : Char → Bool} {s : List Char} {c : Cut} :
    cutRun? p s = some c ↔ s.takeWhile p ≠ [] ∧ c = (s.takeWhile p, s.dropWhile p) := by
  unfold cutRun?
  split
  · next h => simp [h]
  · next h =>
    refine ⟨fun heq => ⟨h, (Option.some.inj heq).symm⟩, ?_⟩
    rintro ⟨-, rfl⟩
    rfl

theorem cutMark?_eq_some {mark s : List Char} {c : Cut} :
    cutMark? mark s = some c ↔ c.1 = mark ∧ s = mark ++ c.2 := by
  unfold cutMark?
  constructor
  · intro h
    split at h
    · next hm =>
      obtain ⟨t, rfl⟩ := List.isPrefixOf_iff_prefix.mp hm
      obtain rfl := Option.some.inj h
      simp
    · cases h
  · rintro ⟨hc, rfl⟩
    obtain ⟨taken, rest⟩ := c
    obtain rfl : taken = mark := hc
    have hm : taken.isPrefixOf (taken ++ rest) = true :=
      List.isPrefixOf_iff_prefix.mpr (List.prefix_append ..)
    simp [hm]

/-- A word is taken where the text begins with it in some case. -/
theorem cutWord?_eq_some {word s : List Char} {c : Cut} :
    cutWord? word s = some c ↔ c.1.map fold = word ∧ s = c.1 ++ c.2 := by
  induction word generalizing s c with
  | nil =>
      obtain ⟨taken, rest⟩ := c
      simp only [cutWord?, Option.some.injEq, Prod.mk.injEq, List.map_eq_nil_iff]
      constructor
      · rintro ⟨rfl, rfl⟩
        exact ⟨rfl, rfl⟩
      · rintro ⟨rfl, rfl⟩
        exact ⟨rfl, rfl⟩
  | cons w word ih =>
      obtain ⟨taken, rest⟩ := c
      cases s with
      | nil =>
          simp only [cutWord?, reduceCtorEq, false_iff, not_and]
          intro hw hs
          obtain ⟨rfl, -⟩ := List.append_eq_nil_iff.mp hs.symm
          simp at hw
      | cons d s =>
          simp only [cutWord?]
          constructor
          · intro h
            split at h
            · next hd =>
              obtain ⟨x, hx, heq⟩ := Option.map_eq_some_iff.mp h
              obtain ⟨rfl, rfl⟩ := Prod.mk.inj heq
              obtain ⟨hw, hs⟩ := ih.mp hx
              simp [hd, hw, hs]
            · cases h
          · rintro ⟨hw, hs⟩
            cases taken with
            | nil => simp at hw
            | cons e taken =>
                obtain ⟨rfl, rfl⟩ := List.cons.inj hs
                obtain ⟨hd, hw⟩ := List.cons.inj hw
                rw [if_pos hd, Option.map_eq_some_iff]
                exact ⟨(taken, rest), ih.mpr ⟨hw, rfl⟩, rfl⟩

theorem cutName?_eq_some {s : List Char} {c : Cut} :
    cutName? s = some c ↔
      ∃ ch t, s = ch :: t ∧ isNameStart ch = true ∧
        c = (ch :: t.takeWhile isWordChar, t.dropWhile isWordChar) := by
  cases s with
  | nil => simp [cutName?]
  | cons ch t =>
      simp only [cutName?]
      constructor
      · intro h
        split at h
        · next hch => exact ⟨ch, t, rfl, hch, (Option.some.inj h).symm⟩
        · cases h
      · rintro ⟨ch', t', hs, hch, rfl⟩
        obtain ⟨rfl, rfl⟩ := List.cons.inj hs
        rw [if_pos hch]

theorem cutOne?_cons {p : Char → Bool} {ch : Char} {s : List Char} (h : p ch = true) :
    cutOne? p (ch :: s) = some ([ch], s) := by
  simp [cutOne?, h]

/-! ## Nothing is taken only as no match -/

theorem cutRun?_ne_nil {p : Char → Bool} {s : List Char} {c : Cut} (h : cutRun? p s = some c) :
    c.1 ≠ [] := by
  obtain ⟨hne, rfl⟩ := cutRun?_eq_some.mp h
  exact hne

theorem cutName?_ne_nil {s : List Char} {c : Cut} (h : cutName? s = some c) : c.1 ≠ [] := by
  obtain ⟨ch, t, -, -, rfl⟩ := cutName?_eq_some.mp h
  simp

theorem cutListedName?_ne_nil {words : List String} {s : List Char} {c : Cut}
    (h : cutListedName? words s = some c) : c.1 ≠ [] :=
  cutName?_ne_nil (Option.filter_eq_some_iff.mp h).1

theorem cutMark?_ne_nil {mark s : List Char} {c : Cut} (hmark : mark ≠ [])
    (h : cutMark? mark s = some c) : c.1 ≠ [] := by
  rw [(cutMark?_eq_some.mp h).1]
  exact hmark

theorem cutMemberSign?_ne_nil {s : List Char} {c : Cut} (h : cutMemberSign? s = some c) :
    c.1 ≠ [] := by
  rcases Option.or_eq_some_iff.mp h with h | ⟨-, h⟩
  · exact cutMark?_ne_nil (by simp) h
  · exact cutMark?_ne_nil (by simp) h

end GaussMarkup
