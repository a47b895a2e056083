import GaussMarkup.Language.Glob
import Mathlib.Data.List.Basic
import Mathlib.Data.List.Forall2

/-!
# What a glob pattern matches

A pattern fits a name if the name can be cut into pieces, one for each character of
the pattern (`GlobFits`). The search for a match gives only the last star more
characters. It misses nothing by that: whatever fits behind a larger piece of an
earlier star also fits behind the last one, because between the two the pattern takes
one character for each of its own (`suffix_of_globFits_append`). So a step leaves the
fits that are still open as they are (`Open`), and the search ends with the answer
that they give (`globMatches_iff_fits`).
-/

namespace GaussMarkup

/-! ## Pieces of a name -/

/-- What a character of a pattern takes of a name. -/
inductive PieceFits : Char → List Char → Prop
  | star (s : List Char) : PieceFits '*' s
  | any (c : Char) : PieceFits '?' [c]
  | itself {q : Char} : q ≠ '*' → q ≠ '?' → PieceFits q [q]

/-- A name is cut into pieces that the characters of a pattern take, in order. -/
def GlobFits (pattern name : List Char) : Prop :=
  ∃ pieces, List.Forall₂ PieceFits pattern pieces ∧ pieces.flatten = name

variable {p s t : List Char} {q : Char}

theorem pieceFits_iff (hq : q ≠ '*') : PieceFits q s ↔ ∃ c, s = [c] ∧ (q = '?' ∨ q = c) := by
  constructor
  · intro h
    cases h with
    | star => exact absurd rfl hq
    | any c => exact ⟨c, rfl, Or.inl rfl⟩
    | itself _ _ => exact ⟨q, rfl, Or.inr rfl⟩
  · rintro ⟨c, rfl, rfl | rfl⟩
    · exact .any c
    · by_cases hany : q = '?'
      · subst hany
        exact .any '?'
      · exact .itself hq hany

theorem globFits_nil : GlobFits [] s ↔ s = [] := by
  constructor
  · rintro ⟨pieces, hpieces, rfl⟩
    cases hpieces
    rfl
  · rintro rfl
    exact ⟨[], .nil, rfl⟩

theorem globFits_cons : GlobFits (q :: p) s ↔ ∃ u t, PieceFits q u ∧ GlobFits p t ∧ s = u ++ t := by
  constructor
  · rintro ⟨pieces, hpieces, rfl⟩
    cases hpieces with
    | @cons _ u _ pieces hu hpieces => exact ⟨u, _, hu, ⟨pieces, hpieces, rfl⟩, rfl⟩
  · rintro ⟨u, t, hu, ⟨pieces, hpieces, rfl⟩, rfl⟩
    exact ⟨u :: pieces, .cons hu hpieces, rfl⟩

theorem globFits_star : GlobFits ('*' :: p) s ↔ ∃ t, t <:+ s ∧ GlobFits p t := by
  rw [globFits_cons]
  constructor
  · rintro ⟨u, t, -, ht, rfl⟩
    exact ⟨t, List.suffix_append u t, ht⟩
  · rintro ⟨t, ⟨u, rfl⟩, ht⟩
    exact ⟨u, t, .star u, ht, rfl⟩

theorem globFits_one (hq : q ≠ '*') :
    GlobFits (q :: p) s ↔ ∃ c t, s = c :: t ∧ (q = '?' ∨ q = c) ∧ GlobFits p t := by
  rw [globFits_cons]
  constructor
  · rintro ⟨u, t, hu, ht, rfl⟩
    obtain ⟨c, rfl, hc⟩ := (pieceFits_iff hq).mp hu
    exact ⟨c, t, rfl, hc, ht⟩
  · rintro ⟨c, t, rfl, hc, ht⟩
    exact ⟨[c], t, (pieceFits_iff hq).mpr ⟨c, rfl, hc⟩, ht, rfl⟩

/-- Only stars take nothing. -/
theorem globFits_nil_right : GlobFits p [] ↔ p.all (· == '*') = true := by
  induction p with
  | nil => simp [globFits_nil]
  | cons q p ih =>
      rw [List.all_cons, Bool.and_eq_true, beq_iff_eq, ← ih]
      by_cases hq : q = '*'
      · subst hq
        simp [globFits_star]
      · simp [globFits_one hq, hq]

/-- A stretch of a pattern without stars takes as many characters as it has. -/
theorem suffix_of_globFits_append {a : List Char} (ha : '*' ∉ a) (h : GlobFits (a ++ p) s) :
    ∃ t, t <:+ s ∧ s.length = a.length + t.length ∧ GlobFits p t := by
  induction a generalizing s with
  | nil => exact ⟨s, List.suffix_refl s, by simp, h⟩
  | cons q a ih =>
      obtain ⟨hq, ha⟩ := not_or.mp (List.mem_cons.not.mp ha)
      obtain ⟨c, u, rfl, -, hu⟩ := (globFits_one (Ne.symm hq)).mp h
      obtain ⟨t, ht, hlength, hfits⟩ := ih ha hu
      refine ⟨t, ht.trans (List.suffix_cons c u), ?_, hfits⟩
      simp only [List.length_cons, hlength]
      omega

/-! ## The fits that are open -/

namespace GlobSearch

/-- The pattern and the name have gone on behind the last star by the same number of
characters, and the pattern without a further star. -/
def Aligned (g : GlobSearch) : Prop :=
  ∀ x ∈ g.star, ∃ a b, x.1 = a ++ g.pattern ∧ x.2 = b ++ g.name ∧ a.length = b.length ∧ '*' ∉ a

/-- What is left of the pattern fits what is left of the name, or the pattern behind
the last star fits behind a larger piece of that star. -/
def Open (g : GlobSearch) : Prop :=
  GlobFits g.pattern g.name ∨ ∃ x ∈ g.star, ∃ t, t <:+ x.2.tail ∧ GlobFits x.1 t

theorem aligned_start (pattern name : List Char) : (start pattern name).Aligned :=
  fun _ h => nomatch h

theorem open_start {pattern name : List Char} :
    (start pattern name).Open ↔ GlobFits pattern name := by
  simp [Open, start]

theorem aligned_atStar (pattern name : List Char) : (atStar pattern name).Aligned := by
  intro x hx
  obtain rfl := Option.some.inj hx
  exact ⟨[], [], rfl, rfl, rfl, by simp⟩

theorem suffix_iff_eq_or_suffix_tail : t <:+ s ↔ t = s ∨ t <:+ s.tail := by
  cases s with
  | nil => simp
  | cons c s => exact List.suffix_cons_iff

theorem open_atStar : (atStar p s).Open ↔ ∃ t, t <:+ s ∧ GlobFits p t := by
  simp only [Open, atStar, Option.mem_def, Option.some.injEq, exists_eq_left']
  constructor
  · rintro (h | ⟨t, ht, h⟩)
    · exact ⟨s, List.suffix_refl s, h⟩
    · exact ⟨t, ht.trans (List.tail_suffix s), h⟩
  · rintro ⟨t, ht, h⟩
    rcases suffix_iff_eq_or_suffix_tail.mp ht with rfl | ht
    · exact Or.inl h
    · exact Or.inr ⟨t, ht, h⟩

/-! ## One step -/

/-- A step remembers a star, or passes one character, or gives the last star more where
the pattern does not fit. -/
theorem next?_cases {g g' : GlobSearch} (h : g.next? = some g') :
    (∃ p, g.pattern = '*' :: p ∧ g' = atStar p g.name) ∨
    (∃ q c, q ≠ '*' ∧ (q = '?' ∨ q = c) ∧ g.pattern = q :: g'.pattern ∧
      g.name = c :: g'.name ∧ g'.star = g.star) ∨
    ¬GlobFits g.pattern g.name ∧ widen? g.star = some g' := by
  match g, h with
  | ⟨[], c :: s, star, hsuffix⟩, h => exact .inr (.inr ⟨by simp [globFits_nil], h⟩)
  | ⟨q :: p, c :: s, star, hsuffix⟩, h =>
      simp only [next?] at h
      split at h
      · next hq =>
        exact .inl ⟨p, by rw [hq], (Option.some.inj h).symm⟩
      · next hq =>
        split at h
        · next hc =>
          obtain rfl := Option.some.inj h
          exact .inr (.inl ⟨q, c, hq, hc, rfl, rfl, rfl⟩)
        · next hc => exact .inr (.inr ⟨by simp [globFits_one hq, hc], h⟩)

/-- The search ends with the name, or where the pattern does not fit and no star is in
front. -/
theorem next?_eq_none {g : GlobSearch} (h : g.next? = none) :
    g.name = [] ∨ g.name ≠ [] ∧ ¬GlobFits g.pattern g.name ∧ g.star = none := by
  match g, h with
  | ⟨p, [], star, hsuffix⟩, _ => exact .inl rfl
  | ⟨[], c :: s, star, hsuffix⟩, h =>
      exact .inr ⟨by simp, by simp [globFits_nil], Option.map_eq_none_iff.mp h⟩
  | ⟨q :: p, c :: s, star, hsuffix⟩, h =>
      simp only [next?] at h
      split at h
      · cases h
      · next hq =>
        split at h
        · cases h
        · next hc =>
          exact .inr ⟨by simp, by simp [globFits_one hq, hc], Option.map_eq_none_iff.mp h⟩

/-- At a further star what fits behind a larger piece of the one before it also fits
here. -/
theorem open_of_star {g : GlobSearch} (haligned : g.Aligned) (hp : g.pattern = '*' :: p) :
    g.Open ↔ ∃ t, t <:+ g.name ∧ GlobFits p t := by
  rw [Open, hp, globFits_star]
  refine ⟨?_, Or.inl⟩
  rintro (h | ⟨x, hx, t, ht, h⟩)
  · exact h
  obtain ⟨a, b, ha, hb, hlength, hstar⟩ := haligned x hx
  rw [ha, hp] at h
  obtain ⟨u, hu, htu, h⟩ := suffix_of_globFits_append hstar h
  obtain ⟨v, hv, h⟩ := globFits_star.mp h
  refine ⟨v, ?_, h⟩
  have htail : t <:+ x.2 := ht.trans (List.tail_suffix x.2)
  -- `v` and the name both end the name that the earlier star left, and `v` is no longer.
  refine List.suffix_of_suffix_length_le ((hv.trans hu).trans htail) (g.suffix_of_star x hx) ?_
  have hle : t.length ≤ b.length + g.name.length := by
    rw [← List.length_append, ← hb]
    exact htail.length_le
  have hvu := hv.length_le
  omega

/-- A step keeps the fits that are open. -/
theorem open_next? {g g' : GlobSearch} (haligned : g.Aligned) (h : g.next? = some g') :
    g'.Aligned ∧ (g'.Open ↔ g.Open) := by
  obtain ⟨p, hp, rfl⟩ | ⟨q, c, hq, hc, hp, hs, hg'⟩ | ⟨hfits, hwiden⟩ := next?_cases h
  · exact ⟨aligned_atStar _ _, open_atStar.trans (open_of_star haligned hp).symm⟩
  · constructor
    · intro x hx
      obtain ⟨a, b, ha, hb, hlength, hstar⟩ := haligned x (hg' ▸ hx)
      exact ⟨a ++ [q], b ++ [c], by simp [ha, hp], by simp [hb, hs], by simp [hlength],
        by simp [hstar, Ne.symm hq]⟩
    · simp [Open, hp, hs, hg', globFits_one hq, hc]
  · -- Where the pattern does not fit, only larger pieces of the last star are left.
    obtain ⟨x, hx, rfl⟩ := Option.map_eq_some_iff.mp hwiden
    refine ⟨aligned_atStar _ _, ?_⟩
    rw [open_atStar, Open, hx]
    simp [hfits]

/-- Where no step leads on, the search succeeds if a fit is open. -/
theorem succeeds_iff_open {g : GlobSearch} (haligned : g.Aligned) (h : g.next? = none) :
    g.succeeds = true ↔ g.Open := by
  obtain hs | ⟨hs, hfits, hstar⟩ := next?_eq_none h
  · rw [succeeds, Open, hs, globFits_nil_right]
    refine ⟨fun h => .inl h, ?_⟩
    rintro (h | ⟨x, hx, t, ht, h⟩)
    · exact h
    -- The name is used up, so a larger piece of the star leaves too little for `a`.
    obtain ⟨a, b, ha, hb, hlength, hstar⟩ := haligned x hx
    rw [ha] at h
    obtain ⟨u, -, htu, h⟩ := suffix_of_globFits_append hstar h
    have hle := ht.length_le
    rw [List.length_tail, hb, hs, List.append_nil] at hle
    obtain rfl : u = [] := List.length_eq_zero_iff.mp (by omega)
    exact globFits_nil_right.mp h
  · simp [succeeds, Open, hs, hfits, hstar]

/-! ## A whole search -/

/-- A number of steps lead from one search to another. -/
inductive Steps : GlobSearch → (n : Nat) → GlobSearch → Prop
  | refl (g : GlobSearch) : Steps g 0 g
  | step {g g' e : GlobSearch} {n : Nat} : g.next? = some g' → Steps g' n e → Steps g (n + 1) e

theorem Steps.open_iff {g e : GlobSearch} {n : Nat} (h : Steps g n e) (haligned : g.Aligned) :
    e.Aligned ∧ (e.Open ↔ g.Open) := by
  induction h with
  | refl g => exact ⟨haligned, Iff.rfl⟩
  | step hnext _ ih =>
      obtain ⟨haligned', hopen⟩ := open_next? haligned hnext
      obtain ⟨he, heopen⟩ := ih haligned'
      exact ⟨he, heopen.trans hopen⟩

/-- No pattern that the search may go back to is longer than `k`. -/
def Within (k : Nat) (g : GlobSearch) : Prop :=
  g.pattern.length ≤ k ∧ ∀ x ∈ g.star, x.1.length ≤ k

theorem within_atStar {k : Nat} (hp : p.length ≤ k) : (atStar p s).Within k := by
  refine ⟨hp, fun x hx => ?_⟩
  obtain rfl := Option.some.inj hx
  exact hp

theorem Within.next? {k : Nat} {g g' : GlobSearch} (hk : g.Within k) (h : g.next? = some g') :
    g'.Within k := by
  obtain ⟨p, hp, rfl⟩ | ⟨q, c, -, -, hp, -, hg'⟩ | ⟨-, hwiden⟩ := next?_cases h
  · have hle := hk.1
    rw [hp, List.length_cons] at hle
    exact within_atStar (by omega)
  · have hle := hk.1
    rw [hp, List.length_cons] at hle
    exact ⟨by omega, fun x hx => hk.2 x (hg' ▸ hx)⟩
  · obtain ⟨x, hx, rfl⟩ := Option.map_eq_some_iff.mp hwiden
    exact within_atStar (hk.2 x hx)

theorem run_of_next?_eq_none {g : GlobSearch} (h : g.next? = none) : g.run = g.succeeds := by
  rw [run]
  split
  · rfl
  · next hsome => rw [h] at hsome; cases hsome

theorem run_of_next?_eq_some {g g' : GlobSearch} (h : g.next? = some g') : g.run = g'.run := by
  rw [run]
  split
  · next hnone => rw [h] at hnone; cases hnone
  · next g'' hsome =>
    obtain rfl := Option.some.inj (h.symm.trans hsome)
    rfl

/-- The search runs to its end, in at most as many steps as its measure allows. -/
theorem exists_steps_run {k : Nat} (g : GlobSearch) (hk : g.Within k) :
    ∃ n e, n ≤ g.left * (k + 1) + g.pattern.length ∧ Steps g n e ∧ e.next? = none ∧
      g.run = e.succeeds := by
  cases hnext : g.next? with
  | none => exact ⟨0, g, Nat.zero_le _, .refl g, hnext, run_of_next?_eq_none hnext⟩
  | some g' =>
      have hk' := hk.next? hnext
      obtain ⟨n, e, hn, hsteps, he, hrun⟩ := exists_steps_run g' hk'
      refine ⟨n + 1, e, ?_, .step hnext hsteps, he, (run_of_next?_eq_some hnext).trans hrun⟩
      have hpattern := hk'.1
      rcases left_next?_lt hnext with hlt | ⟨heq, hlt⟩
      · have hmul := Nat.mul_le_mul_right (k + 1) hlt
        rw [Nat.succ_mul] at hmul
        omega
      · rw [heq] at hn
        omega
termination_by (g.left, g.pattern.length)
decreasing_by
  rcases left_next?_lt hnext with hlt | ⟨heq, hlt⟩
  · exact .left _ _ hlt
  · rw [heq]
    exact .right _ hlt

end GlobSearch

/-- **Globs match what they say.** The search for a match of a pattern ends, and the number
of its steps is bounded by the product of the two lengths. It answers that the pattern
matches a name just where the name can be cut into pieces, one for each character of
the pattern in order: a star takes any piece, a question mark one character, and every
other character itself. -/
theorem globMatches_iff_fits (pattern name : List Char) :
    (∃ n e, n < (name.length + 2) * (pattern.length + 1) ∧
      (GlobSearch.start pattern name).Steps n e ∧ e.next? = none ∧
      globMatches pattern name = e.succeeds) ∧
    (globMatches pattern name = true ↔ GlobFits pattern name) := by
  have hwithin : (GlobSearch.start pattern name).Within pattern.length :=
    ⟨Nat.le_refl _, fun _ h => nomatch h⟩
  obtain ⟨n, e, hn, hsteps, he, hrun⟩ := GlobSearch.exists_steps_run _ hwithin
  obtain ⟨haligned, hopen⟩ := hsteps.open_iff (GlobSearch.aligned_start pattern name)
  constructor
  · refine ⟨n, e, ?_, hsteps, he, hrun⟩
    have hleft : (GlobSearch.start pattern name).left = name.length + 1 := rfl
    have hpattern : (GlobSearch.start pattern name).pattern = pattern := rfl
    rw [hleft, hpattern] at hn
    rw [Nat.succ_mul]
    omega
  · calc globMatches pattern name = true
        ↔ e.succeeds = true := by rw [globMatches, hrun]
      _ ↔ e.Open := GlobSearch.succeeds_iff_open haligned he
      _ ↔ (GlobSearch.start pattern name).Open := hopen
      _ ↔ GlobFits pattern name := GlobSearch.open_start

end GaussMarkup
