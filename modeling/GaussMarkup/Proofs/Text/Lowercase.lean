import GaussMarkup.Proofs.Text.LetterCase
import GaussMarkup.Text.Lowercase

/-!
# Lower case and folding

Words are compared without case in two ways. `fold` maps each character on its
own and knows two letters outside ASCII; `lowercase` is the full mapping, with
its table and with letters that depend on their neighbours. Only the long s tells
the two apart on words of ASCII: it folds to an s, and is its own lower case. With
that letter replaced both ways find the same words (`contains_lowercase_shortS`),
because the full mapping takes no other character outside ASCII into it, the
Kelvin sign apart.
-/

namespace GaussMarkup

/-- A long s as an ordinary one. -/
def shortS (c : Char) : Char :=
  if c = '\u017f' then 's' else c

/-- All characters are ASCII. -/
def isAscii (s : List Char) : Bool :=
  s.all (·.toNat < 0x80)

theorem isAscii_iff {s : List Char} : isAscii s = true ↔ ∀ c ∈ s, c.toNat < 0x80 := by
  simp [isAscii]

theorem isAscii_cons {c : Char} {s : List Char} (h : isAscii (c :: s) = true) :
    isAscii s = true := by
  rw [isAscii_iff] at h ⊢
  exact (List.forall_mem_cons.mp h).2

/-! ## The table of partners -/

/-- A code point stays, or is moved as a run says that it lies in. -/
theorem lowercaseCode_cases (n : Nat) (runs : List (Nat × Nat × Nat × Int)) :
    lowercaseCode n runs = n ∨
      ∃ r ∈ runs, r.1 ≤ n ∧ n ≤ r.2.1 ∧ lowercaseCode n runs = (n + r.2.2.2).toNat := by
  induction runs with
  | nil => exact Or.inl rfl
  | cons r runs ih =>
      obtain ⟨lo, hi, stride, delta⟩ := r
      simp only [lowercaseCode]
      split
      · exact Or.inl rfl
      · next hlo =>
        split
        · next hrun =>
          simp only [Bool.and_eq_true, decide_eq_true_eq] at hrun
          exact Or.inr ⟨_, List.mem_cons_self .., Nat.le_of_not_lt hlo, hrun.1, rfl⟩
        · rcases ih with hstays | ⟨r, hr, hmoved⟩
          · exact Or.inl hstays
          · exact Or.inr ⟨r, List.mem_cons_of_mem _ hr, hmoved⟩

set_option maxRecDepth 8000 in
/-- Only the run of the Kelvin sign leads into ASCII, and no run leads to a code
point that is no character. -/
theorem lowercaseRuns_nonAscii : ∀ r ∈ lowercaseRuns, r.1 = 0x212A ∧ r.2.1 = 0x212A ∨
    0x80 ≤ r.1 + r.2.2.2 ∧ (r.2.1 + r.2.2.2 < 0xD800 ∨
      0xDFFF < r.1 + r.2.2.2 ∧ r.2.1 + r.2.2.2 < 0x110000) := by
  decide

theorem le_toNat_of_lowercaseCode {c : Char} (hc : 0x80 ≤ c.toNat) (hkelvin : c ≠ '\u212a') :
    0x80 ≤ (Char.ofNat (lowercaseCode c.toNat lowercaseRuns)).toNat := by
  rcases lowercaseCode_cases c.toNat lowercaseRuns with hstays | ⟨r, hr, hlo, hhi, hmoved⟩
  · rwa [hstays, Char.ofNat_toNat]
  · rcases lowercaseRuns_nonAscii r hr with ⟨hfirst, hlast⟩ | ⟨hleast, hmost⟩
    · have hn : c.toNat = 0x212A := by omega
      refine absurd ?_ hkelvin
      rw [← Char.ofNat_toNat c, hn]
    · have hvalid : (lowercaseCode c.toNat lowercaseRuns).isValidChar := by
        rw [hmoved, Nat.isValidChar]
        omega
      have hchar : (Char.ofNat (lowercaseCode c.toNat lowercaseRuns)).toNat =
          lowercaseCode c.toNat lowercaseRuns := by
        rw [Char.ofNat, dif_pos hvalid]
        rfl
      rw [hchar, hmoved]
      omega

/-! ## Single characters -/

theorem toNat_toLower_lt_iff (c : Char) : c.toLower.toNat < 0x80 ↔ c.toNat < 0x80 := by
  have hcongr := toLower_congr (f := fun c => decide (c.toNat < 0x80)) (by decide) c
  exact decide_eq_decide.mp hcongr

theorem lowercaseAfter_cons_of_ascii {c : Char} (h : (fold c).toNat < 0x80)
    (before s : List Char) :
    lowercaseAfter before (shortS c :: s) = fold c :: lowercaseAfter (shortS c :: before) s := by
  by_cases hlong : c = '\u017f'
  · subst hlong
    rfl
  by_cases hkelvin : c = '\u212a'
  · subst hkelvin
    have hlower : lowercaseChar '\u212a' = ['k'] := by decide
    have hfold : fold '\u212a' = 'k' := by decide
    rw [shortS, if_neg (by decide), lowercaseAfter, if_neg (by decide), hlower, hfold]
    rfl
  · have hfold : fold c = c.toLower := by rw [fold, if_neg hlong, if_neg hkelvin]
    rw [hfold, toNat_toLower_lt_iff] at h
    have hsigma : c ≠ '\u03a3' := by
      rintro rfl
      exact absurd h (by decide)
    rw [shortS, if_neg hlong, lowercaseAfter, if_neg hsigma, lowercaseChar, if_pos h, hfold]
    rfl

theorem exists_mem_lowercaseAfter_cons {c : Char} (h : 0x80 ≤ (fold c).toNat)
    (before s : List Char) : ∃ d ∈ lowercaseAfter before (shortS c :: s), 0x80 ≤ d.toNat := by
  have hlong : c ≠ '\u017f' := by
    rintro rfl
    exact absurd h (by decide)
  have hkelvin : c ≠ '\u212a' := by
    rintro rfl
    exact absurd h (by decide)
  rw [fold, if_neg hlong, if_neg hkelvin, ← Nat.not_lt, toNat_toLower_lt_iff] at h
  rw [shortS, if_neg hlong, lowercaseAfter]
  split
  · split
    · exact ⟨'\u03c2', by simp, by decide⟩
    · exact ⟨'\u03c3', by simp, by decide⟩
  rw [lowercaseChar, if_neg h]
  split
  · exact ⟨'\u0307', by simp, by decide⟩
  · exact ⟨_, List.mem_append_left _ (List.mem_singleton_self _),
      le_toNat_of_lowercaseCode (Nat.le_of_not_lt h) hkelvin⟩

/-! ## Words -/

theorem lowercaseAfter_shortS_eq_iff {t : List Char} (ht : isAscii t = true)
    (before s : List Char) :
    lowercaseAfter before (s.map shortS) = t ↔ s.map fold = t := by
  induction s generalizing before t with
  | nil => rfl
  | cons c s ih =>
      rw [List.map_cons, List.map_cons]
      by_cases h : (fold c).toNat < 0x80
      · rw [lowercaseAfter_cons_of_ascii h]
        cases t with
        | nil => simp
        | cons d t =>
            have htail := ih (isAscii_cons ht) (shortS c :: before)
            rw [List.cons.injEq, List.cons.injEq, htail]
      · have hfold := Nat.le_of_not_lt h
        constructor
        · rintro rfl
          obtain ⟨d, hd, hle⟩ := exists_mem_lowercaseAfter_cons hfold before (s.map shortS)
          exact absurd (isAscii_iff.mp ht d hd) (Nat.not_lt.mpr hle)
        · rintro rfl
          exact absurd (isAscii_iff.mp ht (fold c) (List.mem_cons_self ..)) h

/-- On a list of ASCII words, a word is found by its lower case, with the long s
replaced, just where it is found by folding. -/
theorem contains_lowercase_shortS {words : List String}
    (hwords : words.all (isAscii ·.toList) = true) (s : List Char) :
    words.contains (String.ofList (lowercase (s.map shortS))) =
      words.contains (String.ofList (s.map fold)) := by
  rw [Bool.eq_iff_iff, List.contains_iff_mem, List.contains_iff_mem]
  constructor
  · intro h
    have hascii := List.all_eq_true.mp hwords _ h
    rw [String.toList_ofList] at hascii
    have hfold := (lowercaseAfter_shortS_eq_iff hascii [] s).mp rfl
    rwa [hfold]
  · intro h
    have hascii := List.all_eq_true.mp hwords _ h
    rw [String.toList_ofList] at hascii
    have hlower : lowercase (s.map shortS) = s.map fold :=
      (lowercaseAfter_shortS_eq_iff hascii [] s).mpr rfl
    rwa [hlower]

end GaussMarkup
