/-!
# Glob patterns

In a pattern a star stands for any text, a question mark for one character, and every other
character for itself. A name is matched from left to right. A star takes nothing at first; wherever
the pattern does not fit the name any further, the last star takes one more character, and the rest
of the pattern is tried again behind it. What the stars in front of it take is never tried again.

The search ends because what the last star leaves of the name only gets shorter, and while it stays
the same the pattern does.
-/

namespace GaussMarkup

/-- Where the search for a match stands. -/
structure GlobSearch where
  /-- The pattern that is still to be matched. -/
  pattern : List Char
  /-- The name that is still to be matched. -/
  name : List Char
  /-- The pattern behind the last star, and the name behind what that star takes. -/
  star : Option (List Char × List Char)
  suffix_of_star : ∀ x ∈ star, name <:+ x.2

namespace GlobSearch

def start (pattern name : List Char) : GlobSearch :=
  ⟨pattern, name, none, fun _ h => nomatch h⟩

/-- The search at the last star, which takes nothing from `name` so far. -/
def atStar (pattern name : List Char) : GlobSearch :=
  ⟨pattern, name, some (pattern, name), fun _ h => Option.some.inj h ▸ List.suffix_refl name⟩

/-- The search after the last star took one more character, if there was a star. -/
def widen? (star : Option (List Char × List Char)) : Option GlobSearch :=
  star.map fun x => atStar x.1 x.2.tail

/-- The search after a step; there is none where it ends. -/
def next? : GlobSearch → Option GlobSearch
  | ⟨_, [], _, _⟩ => none
  | ⟨[], _ :: _, star, _⟩ => widen? star
  | ⟨q :: pattern, c :: name, star, h⟩ =>
    if q = '*' then some (atStar pattern (c :: name))
    else if q = '?' ∨ q = c then
      some ⟨pattern, name, star, fun x hx => (List.suffix_cons c name).trans (h x hx)⟩
    else widen? star

/-- Whether the name is used up and only stars are left of the pattern. -/
def succeeds (g : GlobSearch) : Bool :=
  g.name.isEmpty && g.pattern.all (· == '*')

/-- A bound on what the last star leaves of the name. -/
def left (g : GlobSearch) : Nat :=
  match g.star with
  | none => g.name.length + 1
  | some x => x.2.length

theorem left_widen?_lt {pattern name : List Char} {star : Option (List Char × List Char)}
    {c : Char} (hsuffix : ∀ x ∈ star, c :: name <:+ x.2) {g : GlobSearch}
    (h : widen? star = some g) : g.left < left ⟨pattern, c :: name, star, hsuffix⟩ := by
  obtain ⟨x, rfl, rfl⟩ := Option.map_eq_some_iff.1 h
  have hlength := (hsuffix x rfl).length_le
  simp only [left, atStar, List.length_cons, List.length_tail] at hlength ⊢
  omega

/-- Either the last star leaves less of the name, or it leaves the same and the pattern gets
shorter. -/
theorem left_next?_lt {g g' : GlobSearch} (h : g.next? = some g') :
    g'.left < g.left ∨ g'.left = g.left ∧ g'.pattern.length < g.pattern.length := by
  match g, h with
  | ⟨[], c :: name, star, hsuffix⟩, h => exact .inl (left_widen?_lt hsuffix h)
  | ⟨q :: pattern, c :: name, star, hsuffix⟩, h =>
    simp only [next?] at h
    split at h
    · obtain rfl := Option.some.inj h
      cases star with
      | none => exact .inl (Nat.lt_succ_self _)
      | some x =>
        have hlength := (hsuffix x rfl).length_le
        simp only [left, atStar, List.length_cons] at hlength ⊢
        omega
    · split at h
      · obtain rfl := Option.some.inj h
        cases star with
        | none => exact .inl (Nat.lt_succ_self _)
        | some x => exact .inr ⟨rfl, Nat.lt_succ_self _⟩
      · exact .inl (left_widen?_lt hsuffix h)

/-- Whether the search, taken to its end, succeeds. -/
def run (g : GlobSearch) : Bool :=
  match _h : g.next? with
  | none => g.succeeds
  | some g' => g'.run
termination_by (g.left, g.pattern.length)
decreasing_by
  rcases left_next?_lt _h with hlt | ⟨heq, hlt⟩
  · exact .left _ _ hlt
  · rw [heq]
    exact .right _ hlt

end GlobSearch

/-- Whether a pattern matches the whole of a name. -/
def globMatches (pattern name : List Char) : Bool :=
  (GlobSearch.start pattern name).run

end GaussMarkup
