import GaussMarkup.Role.MenuSelection
import Mathlib.Data.List.Infix

/-!
# What goes with the markers of a text

A marker is a null, together with a blank or a line feed directly behind it, and one scan
from left to right can take the markers away (`dropMarkers`). Here that takes three
passes, and each of them looks at what the ones before it left: a null with a blank is
gone when the second pass looks for line feeds, so that a null in front of it comes to
stand next to what was behind it. The passes are one scan that has a null pending across
such pairs (`unescape_eq`).

Both scans go through a text in the same steps. They part where a line feed comes while a
null is pending, and nowhere else (`dropMarkersAcross_eq_iff`).
-/

namespace GaussMarkup

/-- A text without its markers: each null goes, with a blank or a line feed directly
behind it. -/
def dropMarkers : List Char → List Char
  | [] => []
  | '\x00' :: ' ' :: s => dropMarkers s
  | '\x00' :: '\n' :: s => dropMarkers s
  | '\x00' :: s => dropMarkers s
  | c :: s => c :: dropMarkers s

/-- The same, where a null takes a line feed with it also across nulls with blanks;
`pending` says whether there is such a null in front. -/
def dropMarkersAcross (pending : Bool) : List Char → List Char
  | [] => []
  | '\x00' :: ' ' :: s => dropMarkersAcross pending s
  | '\x00' :: '\n' :: s => dropMarkersAcross false s
  | '\x00' :: s => dropMarkersAcross true s
  | c :: s =>
    if pending ∧ c = '\n' then dropMarkersAcross false s else c :: dropMarkersAcross false s

/-- Whether a line feed comes next, apart from nulls with blanks. -/
def reachesLineFeed : List Char → Bool
  | '\n' :: _ => true
  | '\x00' :: ' ' :: s => reachesLineFeed s
  | _ => false

/-- Somewhere a line feed has a null with a blank in front of it, or several of them, and
in front of these one more null. -/
def HidesLineFeed (s : List Char) : Prop :=
  ∃ t, '\x00' :: '\x00' :: ' ' :: t <:+ s ∧ reachesLineFeed t = true

/-- What the second and the third pass leave of a text. -/
def dropNulls (s : List Char) : List Char :=
  replaceAll '\x00' [] [] (replaceAll '\x00' ['\n'] [] s)

variable {c : Char} {s : List Char}

/-! ## One scan -/

theorem dropMarkers_of_ne (h : c ≠ '\x00') (s : List Char) :
    dropMarkers (c :: s) = c :: dropMarkers s := by
  rw [dropMarkers]
  · exact fun _ hc _ => h hc
  · exact fun _ hc _ => h hc
  · exact h

theorem dropMarkers_null (hblank : ∀ t, s = ' ' :: t → False)
    (hfeed : ∀ t, s = '\n' :: t → False) : dropMarkers ('\x00' :: s) = dropMarkers s := by
  rw [dropMarkers]
  · exact hblank
  · exact hfeed

theorem head?_ne_of_ne_cons (h : ∀ t, s = c :: t → False) : s.head? ≠ some c := by
  intro hhead
  obtain ⟨t, ht⟩ := List.head?_eq_some_iff.mp hhead
  exact h t ht

/-! ## The passes -/

theorem dropNulls_of_ne (h : c ≠ '\x00') : dropNulls (c :: s) = c :: dropNulls s := by
  rw [dropNulls, replaceAll_of_ne h, replaceAll_of_ne h]
  rfl

theorem dropNulls_lineFeed : dropNulls ('\x00' :: '\n' :: s) = dropNulls s := by
  rw [dropNulls, replaceAll_two]
  rfl

theorem dropNulls_null (h : s.head? ≠ some '\n') : dropNulls ('\x00' :: s) = dropNulls s := by
  rw [dropNulls, replaceAll_alone h, replaceAll_one]
  rfl

/-- Nothing, or a null. -/
def pendingNull (pending : Bool) : List Char :=
  if pending then ['\x00'] else []

theorem dropNulls_pendingNull (pending : Bool) (h : s.head? ≠ some '\n') :
    dropNulls (pendingNull pending ++ s) = dropNulls s := by
  cases pending with
  | false => rfl
  | true => exact dropNulls_null h

/-- The passes behind a null that the first one left are the scan with a null pending. -/
theorem dropNulls_pending (pending : Bool) (s : List Char) :
    dropNulls (pendingNull pending ++ replaceAll '\x00' [' '] [] s) =
      dropMarkersAcross pending s := by
  fun_induction dropMarkersAcross pending s with
  | case1 pending =>
      rw [replaceAll_nil, dropNulls_pendingNull pending (by simp)]
      simp [dropNulls]
  | case2 pending s ih =>
      rw [replaceAll_two]
      exact ih
  | case3 pending s ih =>
      rw [replaceAll_alone (by simp), replaceAll_of_ne (by decide),
        dropNulls_pendingNull pending (by simp), dropNulls_lineFeed]
      exact ih
  | case4 pending s hblank _ ih =>
      -- The first pass leaves this null. It is pending now, whether or not one was before.
      rw [replaceAll_alone (head?_ne_of_ne_cons hblank), dropNulls_pendingNull pending (by simp)]
      exact ih
  | case5 pending c s _ _ hnull hfeed ih =>
      obtain ⟨rfl, rfl⟩ := hfeed
      rw [replaceAll_of_ne hnull, pendingNull, if_pos rfl, List.singleton_append,
        dropNulls_lineFeed]
      exact ih
  | case6 pending c s _ _ hnull hkeeps ih =>
      rw [replaceAll_of_ne hnull]
      by_cases hpending : pending = true
      · have hhead : (c :: replaceAll '\x00' [' '] [] s).head? ≠ some '\n' := by
          simpa using fun hc => hkeeps ⟨hpending, hc⟩
        rw [dropNulls_pendingNull pending hhead, dropNulls_of_ne hnull]
        exact congrArg (c :: ·) ih
      · rw [pendingNull, if_neg hpending, List.nil_append, dropNulls_of_ne hnull]
        exact congrArg (c :: ·) ih

theorem unescape_eq (s : List Char) : unescape s = dropMarkersAcross false s :=
  dropNulls_pending false s

/-! ## Where the scans part -/

/-- The longer a null is pending the more is taken away. -/
theorem dropMarkersAcross_sublist (pending : Bool) (s : List Char) :
    (dropMarkersAcross pending s).Sublist (dropMarkers s) := by
  fun_induction dropMarkersAcross pending s with
  | case1 => exact List.Sublist.slnil
  | case2 pending s ih => exact ih
  | case3 pending s ih => exact ih
  | case4 pending s hblank hfeed ih => rwa [dropMarkers_null hblank hfeed]
  | case5 pending c s _ _ hnull hfeed ih =>
      rw [dropMarkers_of_ne hnull]
      exact ih.cons c
  | case6 pending c s _ _ hnull hkeeps ih =>
      rw [dropMarkers_of_ne hnull]
      exact ih.cons_cons c

theorem hidesLineFeed_cons : HidesLineFeed (c :: s) ↔
    (c = '\x00' ∧ ∃ t, s = '\x00' :: ' ' :: t ∧ reachesLineFeed t = true) ∨
      HidesLineFeed s := by
  constructor
  · rintro ⟨t, hsuffix, ht⟩
    rcases List.suffix_cons_iff.mp hsuffix with heq | hsuffix
    · obtain ⟨hc, hs⟩ := List.cons.inj heq
      exact Or.inl ⟨hc.symm, t, hs.symm, ht⟩
    · exact Or.inr ⟨t, hsuffix, ht⟩
  · rintro (⟨rfl, t, rfl, ht⟩ | ⟨t, hsuffix, ht⟩)
    · exact ⟨t, List.suffix_refl _, ht⟩
    · exact ⟨t, hsuffix.trans (List.suffix_cons ..), ht⟩

theorem hidesLineFeed_of_ne (h : c ≠ '\x00') : HidesLineFeed (c :: s) ↔ HidesLineFeed s := by
  rw [hidesLineFeed_cons, or_iff_right fun hnull => h hnull.1]

theorem reachesLineFeed_iff (hfeed : ∀ t, s = '\n' :: t → False) :
    reachesLineFeed s = true ↔ ∃ t, s = '\x00' :: ' ' :: t ∧ reachesLineFeed t = true := by
  constructor
  · intro h
    fun_cases reachesLineFeed s with
    | case1 t => exact (hfeed t rfl).elim
    | case2 t => exact ⟨t, rfl, h⟩
    | case3 => simp_all [reachesLineFeed]
  · rintro ⟨t, rfl, ht⟩
    exact ht

/-- A null with nothing behind it that goes with it hides the line feed that is reached from
there. -/
theorem hidesLineFeed_null (hfeed : ∀ t, s = '\n' :: t → False) :
    HidesLineFeed ('\x00' :: s) ↔ reachesLineFeed s = true ∨ HidesLineFeed s := by
  rw [hidesLineFeed_cons, reachesLineFeed_iff hfeed, and_iff_right rfl]

/-- The scans part where a line feed is hidden, or is reached from a null that is pending. -/
theorem dropMarkersAcross_eq_iff (pending : Bool) (s : List Char) :
    dropMarkersAcross pending s = dropMarkers s ↔
      ¬HidesLineFeed s ∧ (pending = true → reachesLineFeed s = false) := by
  fun_induction dropMarkersAcross pending s with
  | case1 => simp [HidesLineFeed, dropMarkers, reachesLineFeed]
  | case2 pending s ih =>
      have hhides : HidesLineFeed ('\x00' :: ' ' :: s) ↔ HidesLineFeed s := by
        rw [hidesLineFeed_null (by simp), hidesLineFeed_of_ne (by decide)]
        simp [reachesLineFeed]
      rw [hhides]
      exact ih
  | case3 pending s ih =>
      have hhides : HidesLineFeed ('\x00' :: '\n' :: s) ↔ HidesLineFeed s := by
        rw [hidesLineFeed_cons, hidesLineFeed_of_ne (by decide)]
        simp
      rw [hhides]
      simpa [dropMarkers, reachesLineFeed] using ih
  | case4 pending s hblank hfeed ih =>
      have hreaches : reachesLineFeed ('\x00' :: s) = false := by
        rw [reachesLineFeed]
        · simp
        · simpa using hblank
      rw [dropMarkers_null hblank hfeed, ih, hidesLineFeed_null hfeed, hreaches]
      simp [and_comm]
  | case5 pending c s _ _ hnull hfeed ih =>
      -- Only one of the scans takes this line feed, and the other one never makes up for it.
      obtain ⟨rfl, rfl⟩ := hfeed
      have hshorter := (dropMarkersAcross_sublist false s).length_le
      refine iff_of_false (fun heq => ?_) (fun h => ?_)
      · rw [heq, dropMarkers_of_ne hnull, List.length_cons] at hshorter
        omega
      · cases h.2 rfl
  | case6 pending c s _ _ hnull hkeeps ih =>
      have hreaches : pending = true → reachesLineFeed (c :: s) = false := by
        intro hpending
        rw [reachesLineFeed]
        · exact fun t heq => hkeeps ⟨hpending, (List.cons.inj heq).1⟩
        · exact fun t heq => hnull (List.cons.inj heq).1
      rw [dropMarkers_of_ne hnull, List.cons.injEq, and_iff_right rfl, ih,
        hidesLineFeed_of_ne hnull]
      simp only [Bool.false_eq_true, false_implies, and_true]
      exact (and_iff_left hreaches).symm

/-- **Markers go in one scan, and line feeds with them.** What is left of a text is what
one scan leaves that takes each null, each blank directly behind a null, and each line
feed with a null in front of it, directly or with nulls with blanks in between. So
nothing is left of a marker, but all that is no part of one is left only where no line
feed stands behind nulls with blanks that have one more null in front of them. -/
theorem unescape_scans_once (s : List Char) :
    unescape s = dropMarkersAcross false s ∧
      (unescape s).Sublist (dropMarkers s) ∧
      (unescape s = dropMarkers s ↔ ¬HidesLineFeed s) := by
  rw [unescape_eq, dropMarkersAcross_eq_iff]
  exact ⟨rfl, dropMarkersAcross_sublist false s, by simp⟩

/-- The line feed has a blank in front of it and no null. -/
theorem unescape_drops_lineFeed :
    unescape ['a', '\x00', '\x00', ' ', '\n', 'b'] = ['a', 'b'] ∧
      dropMarkers ['a', '\x00', '\x00', ' ', '\n', 'b'] = ['a', '\n', 'b'] := by
  rw [unescape_eq]
  decide

end GaussMarkup
