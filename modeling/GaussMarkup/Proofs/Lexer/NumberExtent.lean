import GaussMarkup.Proofs.Lexer.RootRules
import GaussMarkup.Proofs.Lexer.Run
import GaussMarkup.Proofs.Text.CharClass
import GaussMarkup.Proofs.Text.Prefixes
import Mathlib.Data.List.TakeWhile

/-!
# How far a number goes

A number goes on as far as it can: its text is the longest prefix of the text in
front of the cursor that is a number (`Longest`). The rules for numbers find that
prefix although they read from left to right and never try a shorter mantissa.
An exponent begins with a letter, and no letter occurs in a mantissa, so an
exponent can only stand behind the longest mantissa (`mantissa_eq_of_exponent`).

Digits that directly follow a letter or another numeral are a number of their own
kind, unless they have an exponent.
-/

namespace GaussMarkup

/-! ## What a number is -/

/-- One character or more, all of a class. -/
def RunOf (f : Char → Bool) (p : List Char) : Prop :=
  p ≠ [] ∧ ∀ c ∈ p, f c = true

/-- Digits of any script. -/
abbrev Digits : List Char → Prop :=
  RunOf isDigit

/-- Digits with an optional fraction, or a fraction alone. -/
inductive Mantissa : List Char → Prop
  | whole {p : List Char} : Digits p → Mantissa p
  | point {p q : List Char} :
      Digits p → (∀ d ∈ q, isDigit d = true) → Mantissa (p ++ '.' :: q)
  | fraction {q : List Char} : Digits q → Mantissa ('.' :: q)

/-- The mark of an exponent, an optional sign and digits. -/
inductive Exponent : List Char → Prop
  | mk {e : Char} {sign p : List Char} :
      e = 'e' ∨ e = 'E' → sign = [] ∨ sign = ['+'] ∨ sign = ['-'] → Digits p →
        Exponent (e :: (sign ++ p))

/-- A mantissa behind an optional minus sign. -/
def SignedMantissa (p : List Char) : Prop :=
  ∃ sign m, (sign = [] ∨ sign = ['-']) ∧ Mantissa m ∧ p = sign ++ m

/-- A mantissa with an exponent, behind an optional minus sign. -/
def Scientific (p : List Char) : Prop :=
  ∃ m e, SignedMantissa m ∧ Exponent e ∧ p = m ++ e

/-- A decimal number: an optional minus sign, a mantissa and an optional
exponent. -/
def DecimalNumber (p : List Char) : Prop :=
  SignedMantissa p ∨ Scientific p

/-- A hexadecimal number: `0x`, in either case, and hexadecimal digits. -/
def HexNumber (p : List Char) : Prop :=
  ∃ x digits, (x = 'x' ∨ x = 'X') ∧ RunOf isHexDigit digits ∧ p = '0' :: x :: digits

/-- A text begins with a digit. -/
def OpensDigits (s : List Char) : Prop :=
  ∃ d t, s = d :: t ∧ isDigit d = true

/-- What stands behind a cursor is neither a letter, a numeral nor an
underscore. -/
def NoWordBehind (before : Option Char) : Prop :=
  ∀ c ∈ before, isAlphanumeric c = false ∧ c ≠ '_'

/-! ## Scanners that take the longest prefix -/

/-- A scanner takes the longest prefix with a property, and nothing only where no
prefix has it. -/
structure TakesLongest (scan : List Char → Option Cut) (P : List Char → Prop) : Prop where
  longest : ∀ {s : List Char} {x : Cut}, scan s = some x → Longest P s x.1
  lacks : ∀ {s : List Char}, scan s = none → Lacks P s

section Scanners

variable {s p m e : List Char} {x : Cut}

theorem runOf_of_takeWhile {f : Char → Bool} (hp : p <+: s.takeWhile f) (hne : p ≠ []) :
    RunOf f p :=
  ⟨hne, fun _ hc => List.mem_takeWhile_imp (hp.subset hc)⟩

theorem takesLongest_run (f : Char → Bool) : TakesLongest (cutRun? f) (RunOf f) where
  longest {s x} h := by
    obtain ⟨hne, rfl⟩ := cutRun?_eq_some.mp h
    exact ⟨List.takeWhile_prefix _, runOf_of_takeWhile (List.prefix_refl _) hne,
      fun q hq hrun => (prefix_takeWhile hq hrun.2).length_le⟩
  lacks {s} h q hq hrun := by
    have hne : s.takeWhile f ≠ [] := (prefix_takeWhile hq hrun.2).ne_nil hrun.1
    simp [cutRun?, hne] at h

/-! ## Hexadecimal numbers -/

theorem fold_eq_x_iff {c : Char} : fold c = 'x' ↔ c = 'x' ∨ c = 'X' := by
  constructor
  · intro h
    unfold fold at h
    split at h
    · cases h
    split at h
    · cases h
    have hcase := toLower_congr (f := fun c => c == 'x' || c == 'X') (by decide) c
    rw [h] at hcase
    simpa using hcase.symm
  · rintro (rfl | rfl) <;> decide

theorem cutWord?_hexMark {s : List Char} {y : Cut} :
    cutWord? ['0', 'x'] s = some y ↔
      ∃ x, (x = 'x' ∨ x = 'X') ∧ y.1 = ['0', x] ∧ s = '0' :: x :: y.2 := by
  rw [cutWord?_eq_some]
  constructor
  · rintro ⟨hmark, hs⟩
    obtain ⟨zero, mark, hy, hzero, hmark⟩ := List.map_eq_cons_iff.mp hmark
    obtain ⟨x, last, rfl, hx, hlast⟩ := List.map_eq_cons_iff.mp hmark
    obtain rfl := List.map_eq_nil_iff.mp hlast
    obtain rfl := (fold_eq_iff (by decide) (by decide) zero).mp hzero
    exact ⟨x, fold_eq_x_iff.mp hx, hy, by rw [hs, hy]; rfl⟩
  · rintro ⟨x, hx, hy, hs⟩
    refine ⟨?_, by rw [hs, hy]; rfl⟩
    rw [hy, List.map_cons, List.map_cons, fold_eq_x_iff.mpr hx]
    rfl

theorem takesLongest_hex : TakesLongest cutHex? HexNumber where
  longest {s z} h := by
    have hfront : z.1 <+: s := ⟨z.2, joins_cutHex? h⟩
    obtain ⟨y, hy, h⟩ := Option.bind_eq_some_iff.mp h
    obtain ⟨run, hrun, rfl⟩ := Option.map_eq_some_iff.mp h
    obtain ⟨x, hx, hmark, rfl⟩ := cutWord?_hexMark.mp hy
    have hlongest := (takesLongest_run isHexDigit).longest hrun
    refine ⟨hfront, ⟨x, run.1, hx, hlongest.holds, by rw [hmark]; rfl⟩, ?_⟩
    rintro q hq ⟨x', digits, -, hdigits, rfl⟩
    obtain ⟨-, hq⟩ := List.cons_prefix_cons.mp hq
    obtain ⟨-, hq⟩ := List.cons_prefix_cons.mp hq
    have hle := hlongest.greatest digits hq hdigits
    simp only [hmark, List.length_cons, List.length_append, List.length_nil]
    omega
  lacks {s} h q hq := by
    rintro ⟨x, digits, hx, hdigits, rfl⟩
    obtain ⟨t, rfl⟩ := hq
    have hmark : cutWord? ['0', 'x'] ('0' :: x :: (digits ++ t)) =
        some (['0', x], digits ++ t) := cutWord?_hexMark.mpr ⟨x, hx, rfl, rfl⟩
    have hnone : cutRun? isHexDigit (digits ++ t) = none := by
      simpa [cutHex?, hmark] using h
    exact (takesLongest_run isHexDigit).lacks hnone digits (List.prefix_append ..) hdigits

/-! ## Mantissas -/

theorem isDigit_or_dot_of_mantissa (h : Mantissa m) : ∀ c ∈ m, isDigit c = true ∨ c = '.' := by
  cases h with
  | whole hp => exact fun c hc => Or.inl (hp.2 c hc)
  | point hp hq =>
      intro c hc
      rcases List.mem_append.mp hc with hc | hc
      · exact Or.inl (hp.2 c hc)
      rcases List.mem_cons.mp hc with rfl | hc
      · exact Or.inr rfl
      · exact Or.inl (hq c hc)
  | fraction hq =>
      intro c hc
      rcases List.mem_cons.mp hc with rfl | hc
      · exact Or.inr rfl
      · exact Or.inl (hq.2 c hc)

theorem takeWhile_dropWhile_of_digits {d : Char} (hp : ∀ c ∈ p, isDigit c = true)
    (hd : isDigit d = false) (t : List Char) :
    (p ++ d :: t).takeWhile isDigit = p ∧ (p ++ d :: t).dropWhile isDigit = d :: t := by
  simp [List.takeWhile_append_of_pos hp, List.dropWhile_append_of_pos hp, hd]

/-- A mantissa in front of a text is part of its first digits, or goes on behind
the dot that follows them. -/
theorem mantissa_cases (hm : Mantissa m) (hs : m <+: s) :
    (m ≠ [] ∧ m <+: s.takeWhile isDigit) ∨
      ∃ t q, s.dropWhile isDigit = '.' :: t ∧ m = s.takeWhile isDigit ++ '.' :: q ∧
        q <+: t.takeWhile isDigit ∧ (s.takeWhile isDigit ≠ [] ∨ q ≠ []) := by
  have hdot : isDigit '.' = false := by decide
  cases hm with
  | whole hp => exact Or.inl ⟨hp.1, prefix_takeWhile hs hp.2⟩
  | @point p q hp hq =>
      obtain ⟨r, rfl⟩ := hs
      obtain ⟨htake, hdrop⟩ := takeWhile_dropWhile_of_digits hp.2 hdot (q ++ r)
      rw [List.append_assoc, List.cons_append]
      refine Or.inr ⟨q ++ r, q, hdrop, ?_, ?_, ?_⟩
      · rw [htake]
      · exact prefix_takeWhile (List.prefix_append ..) hq
      · rw [htake]
        exact Or.inl hp.1
  | @fraction q hq =>
      obtain ⟨r, rfl⟩ := hs
      obtain ⟨htake, hdrop⟩ :=
        takeWhile_dropWhile_of_digits (List.forall_mem_nil _) hdot (q ++ r)
      rw [List.cons_append]
      rw [List.nil_append] at htake hdrop
      refine Or.inr ⟨q ++ r, q, hdrop, ?_, ?_, Or.inr hq.1⟩
      · rw [htake, List.nil_append]
      · exact prefix_takeWhile (List.prefix_append ..) hq.2

theorem takesLongest_mantissa : TakesLongest cutMantissa? Mantissa where
  longest {s x} h := by
    have hfront : x.1 <+: s := ⟨x.2, joins_cutMantissa? h⟩
    unfold cutMantissa? at h
    split at h
    · next t hrun hrest =>
      obtain ⟨y, hy, rfl⟩ := Option.map_eq_some_iff.mp h
      have hy := (takesLongest_run isDigit).longest hy
      refine ⟨hfront, .fraction hy.holds, fun q hq hm => ?_⟩
      rcases mantissa_cases hm hq with ⟨hne, hle⟩ | ⟨u, r, hu, rfl, hr, -⟩
      · rw [hrun, List.prefix_nil] at hle
        exact absurd hle hne
      · obtain ⟨-, rfl⟩ := List.cons.inj (hrest.symm.trans hu)
        by_cases hnil : r = []
        · simp [hrun, hnil]
        · have hle :=
            hy.greatest r (hr.trans (List.takeWhile_prefix _)) (runOf_of_takeWhile hr hnil)
          simpa [hrun] using hle
    · cases h
    · next d ds t hrun hrest =>
      obtain rfl := Option.some.inj h
      have hdigits : Digits (d :: ds) :=
        runOf_of_takeWhile (s := s) (hrun ▸ List.prefix_refl _) (by simp)
      refine ⟨hfront, .point hdigits (fun _ => List.mem_takeWhile_imp), fun q hq hm => ?_⟩
      rcases mantissa_cases hm hq with ⟨-, hle⟩ | ⟨u, r, hu, rfl, hr, -⟩
      · rw [hrun] at hle
        exact Nat.le_trans hle.length_le (List.prefix_append _ _).length_le
      · obtain ⟨-, rfl⟩ := List.cons.inj (hrest.symm.trans hu)
        simpa [hrun] using hr.length_le
    · next d ds hrun hrest =>
      obtain rfl := Option.some.inj h
      have hdigits : Digits (d :: ds) :=
        runOf_of_takeWhile (s := s) (hrun ▸ List.prefix_refl _) (by simp)
      refine ⟨hfront, .whole hdigits, fun q hq hm => ?_⟩
      rcases mantissa_cases hm hq with ⟨-, hle⟩ | ⟨u, r, hu, rfl, -, -⟩
      · rw [hrun] at hle
        exact hle.length_le
      · exact absurd hu (hrest u)
  lacks {s} h q hq hm := by
    unfold cutMantissa? at h
    split at h
    · next t hrun hrest =>
      have hlacks := (takesLongest_run isDigit).lacks (Option.map_eq_none_iff.mp h)
      rcases mantissa_cases hm hq with ⟨hne, hle⟩ | ⟨u, r, hu, -, hr, hne⟩
      · rw [hrun, List.prefix_nil] at hle
        exact hne hle
      · obtain ⟨-, rfl⟩ := List.cons.inj (hrest.symm.trans hu)
        exact hlacks r (hr.trans (List.takeWhile_prefix _))
          (runOf_of_takeWhile hr (hne.resolve_left (· hrun)))
    · next hrun hrest =>
      rcases mantissa_cases hm hq with ⟨hne, hle⟩ | ⟨u, r, hu, -, -, -⟩
      · rw [hrun, List.prefix_nil] at hle
        exact hne hle
      · exact hrest u hu
    · cases h
    · cases h

/-! ## Signs -/

theorem exists_opensMantissa (hm : Mantissa m) : ∃ c t, m = c :: t ∧ opensMantissa c = true := by
  cases hm with
  | whole hp | point hp _ =>
      obtain ⟨d, ds, rfl⟩ := List.exists_cons_of_ne_nil hp.1
      exact ⟨d, _, rfl, by simp [opensMantissa, hp.2 d (List.mem_cons_self ..)]⟩
  | fraction hq => exact ⟨'.', _, rfl, rfl⟩

/-- The minus sign in front of a mantissa is the one that is cut off. -/
theorem cutOptional_of_mantissa {sign : List Char} (hsign : sign = [] ∨ sign = ['-'])
    (hm : Mantissa m) (hs : sign ++ m <+: s) :
    (cutOptional '-' s).1 = sign ∧ m <+: (cutOptional '-' s).2 := by
  obtain ⟨r, rfl⟩ := hs
  rcases hsign with rfl | rfl
  · obtain ⟨c, t, rfl, hc⟩ := exists_opensMantissa hm
    have hne : c ≠ '-' := by
      rintro rfl
      cases hc
    rw [List.nil_append, List.cons_append, cutOptional_of_ne _ hne]
    exact ⟨rfl, r, rfl⟩
  · exact ⟨rfl, r, rfl⟩

theorem cutOptional_cases (c : Char) (s : List Char) :
    (cutOptional c s).1 = [] ∨ (cutOptional c s).1 = [c] := by
  unfold cutOptional
  split
  · exact Or.inl rfl
  · next d t =>
    split
    · next hd => exact Or.inr (by rw [hd])
    · exact Or.inl rfl

/-- An optional minus sign and a mantissa. -/
def cutSignedMantissa? (s : List Char) : Option Cut :=
  (cutMantissa? (cutOptional '-' s).2).map fun x => ((cutOptional '-' s).1 ++ x.1, x.2)

theorem joins_cutSignedMantissa? : Joins cutSignedMantissa? :=
  joins_optional joins_cutMantissa?

theorem takesLongest_signedMantissa : TakesLongest cutSignedMantissa? SignedMantissa where
  longest {s x} h := by
    have hfront : x.1 <+: s := ⟨x.2, joins_cutSignedMantissa? h⟩
    obtain ⟨y, hy, rfl⟩ := Option.map_eq_some_iff.mp h
    have hlongest := takesLongest_mantissa.longest hy
    refine ⟨hfront, ⟨_, _, cutOptional_cases '-' s, hlongest.holds, rfl⟩, ?_⟩
    rintro q hq ⟨sign, m, hsign, hm, rfl⟩
    obtain ⟨rfl, hm'⟩ := cutOptional_of_mantissa hsign hm hq
    have hle := hlongest.greatest m hm' hm
    simp only [List.length_append]
    omega
  lacks {s} h q hq := by
    rintro ⟨sign, m, hsign, hm, rfl⟩
    have hlacks := takesLongest_mantissa.lacks (Option.map_eq_none_iff.mp h)
    exact hlacks m (cutOptional_of_mantissa hsign hm hq).2 hm

/-! ## Exponents -/

theorem cutSign_cases (s : List Char) :
    (cutSign s).1 = [] ∨ (cutSign s).1 = ['+'] ∨ (cutSign s).1 = ['-'] := by
  unfold cutSign
  split
  · exact Or.inl rfl
  · next d t =>
    split
    · next hd =>
      rcases hd with rfl | rfl
      · exact Or.inr (Or.inl rfl)
      · exact Or.inr (Or.inr rfl)
    · exact Or.inl rfl

/-- The sign in front of digits is the one that is cut off. -/
theorem cutSign_of_digits {sign : List Char} (hsign : sign = [] ∨ sign = ['+'] ∨ sign = ['-'])
    (hp : Digits p) (hs : sign ++ p <+: s) : (cutSign s).1 = sign ∧ p <+: (cutSign s).2 := by
  obtain ⟨r, rfl⟩ := hs
  rcases hsign with rfl | rfl | rfl
  · obtain ⟨d, t, rfl⟩ := List.exists_cons_of_ne_nil hp.1
    have hd := hp.2 d (List.mem_cons_self ..)
    have hne : ¬(d = '+' ∨ d = '-') := by
      rintro (rfl | rfl) <;> cases hd
    rw [List.nil_append, List.cons_append, cutSign, if_neg hne]
    exact ⟨rfl, r, rfl⟩
  · exact ⟨rfl, r, rfl⟩
  · exact ⟨rfl, r, rfl⟩

theorem takesLongest_exponent : TakesLongest cutExponent? Exponent where
  longest {s x} h := by
    have hfront : x.1 <+: s := ⟨x.2, joins_cutExponent? h⟩
    cases s with
    | nil => cases h
    | cons c t =>
        simp only [cutExponent?] at h
        split at h
        · next hc =>
          obtain ⟨y, hy, rfl⟩ := Option.map_eq_some_iff.mp h
          have hlongest := (takesLongest_run isDigit).longest hy
          refine ⟨hfront, .mk hc (cutSign_cases t) hlongest.holds, ?_⟩
          rintro q hq ⟨-, hsign, hp⟩
          obtain ⟨-, htail⟩ := List.cons_prefix_cons.mp hq
          obtain ⟨rfl, hp'⟩ := cutSign_of_digits hsign hp htail
          have hle := hlongest.greatest _ hp' hp
          simp only [List.length_cons, List.length_append]
          omega
        · cases h
  lacks {s} h q hq := by
    rintro ⟨he, hsign, hp⟩
    cases s with
    | nil => cases List.prefix_nil.mp hq
    | cons c t =>
        obtain ⟨rfl, htail⟩ := List.cons_prefix_cons.mp hq
        obtain ⟨rfl, hp'⟩ := cutSign_of_digits hsign hp htail
        rw [cutExponent?, if_pos he, Option.map_eq_none_iff] at h
        exact (takesLongest_run isDigit).lacks h _ hp' hp

/-! ## Decimal numbers -/

/-- An exponent does not begin with a character of a mantissa. -/
theorem exists_opensExponent (he : Exponent e) :
    ∃ c t, e = c :: t ∧ isDigit c = false ∧ c ≠ '.' ∧ c ≠ '-' := by
  obtain ⟨rfl | rfl, -, -⟩ := he
  · exact ⟨'e', _, rfl, by decide⟩
  · exact ⟨'E', _, rfl, by decide⟩

theorem mem_signedMantissa (hm : SignedMantissa m) {c : Char} (hc : c ∈ m) :
    isDigit c = true ∨ c = '.' ∨ c = '-' := by
  obtain ⟨sign, m, hsign, hm, rfl⟩ := hm
  rcases List.mem_append.mp hc with hc | hc
  · rcases hsign with rfl | rfl
    · cases hc
    · exact Or.inr (Or.inr (List.mem_singleton.mp hc))
  · exact (isDigit_or_dot_of_mantissa hm c hc).imp_right Or.inl

/-- An exponent stands behind the longest mantissa only. -/
theorem mantissa_eq_of_exponent (hm : SignedMantissa m) (he : Exponent e) (hs : m ++ e <+: s)
    (hp : Longest SignedMantissa s p) : m = p := by
  obtain ⟨t, rfl⟩ := hs
  have hfront : m <+: p := hp.prefix_of ⟨e ++ t, by simp⟩ hm
  obtain ⟨r, rfl⟩ := hfront
  cases r with
  | nil => simp
  | cons d r =>
      -- The character behind the shorter mantissa would belong to the longer one.
      obtain ⟨c, u, rfl, hdigit, hdot, hsign⟩ := exists_opensExponent he
      obtain ⟨v, hv⟩ := hp.front
      have hsplit : m ++ d :: (r ++ v) = m ++ c :: (u ++ t) := by simpa using hv
      have htail := List.append_cancel_left hsplit
      obtain ⟨rfl, -⟩ := List.cons.inj htail
      rcases mem_signedMantissa hp.holds (c := d) (by simp) with hd | hd | hd
      · rw [hdigit] at hd
        cases hd
      · exact absurd hd hdot
      · exact absurd hd hsign

section Decimals

variable (hx : Longest SignedMantissa s x.1) (hjoin : x.1 ++ x.2 = s)

include hx hjoin

/-- A number with an exponent is the longest mantissa with an exponent behind
it. -/
theorem exists_exponent_of_scientific (hp : Scientific p) (hs : p <+: s) :
    ∃ e, Exponent e ∧ e <+: x.2 ∧ p = x.1 ++ e := by
  obtain ⟨m, e, hm, he, rfl⟩ := hp
  obtain rfl := mantissa_eq_of_exponent hm he hs hx
  rw [← hjoin, List.prefix_append_right_inj] at hs
  exact ⟨e, he, hs, rfl⟩

theorem longest_decimal_of_exponent (he : Longest Exponent x.2 e) :
    Longest DecimalNumber s (x.1 ++ e) where
  front := by
    rw [← hjoin, List.prefix_append_right_inj]
    exact he.front
  holds := Or.inr ⟨x.1, e, hx.holds, he.holds, rfl⟩
  greatest q hq hdecimal := by
    rw [List.length_append]
    rcases hdecimal with hm | hscientific
    · have hle := hx.greatest q hq hm
      omega
    · obtain ⟨f, hf, hfront, rfl⟩ := exists_exponent_of_scientific hx hjoin hscientific hq
      have hle := he.greatest f hfront hf
      rw [List.length_append]
      omega

theorem lacks_scientific (he : Lacks Exponent x.2) : Lacks Scientific s := by
  intro q hq hscientific
  obtain ⟨f, hf, hfront, -⟩ := exists_exponent_of_scientific hx hjoin hscientific hq
  exact he f hfront hf

theorem longest_decimal_of_lacks (he : Lacks Exponent x.2) : Longest DecimalNumber s x.1 where
  front := hx.front
  holds := Or.inl hx.holds
  greatest q hq hdecimal := by
    rcases hdecimal with hm | hscientific
    · exact hx.greatest q hq hm
    · exact absurd hscientific (lacks_scientific hx hjoin he q hq)

end Decimals

/-- The mantissa is cut off first, then the exponent, if there is one. -/
theorem cutSigned?_eq (s : List Char) : cutSigned? s = (cutSignedMantissa? s).map fun x =>
    match cutExponent? x.2 with
    | some y => (x.1 ++ y.1, y.2)
    | none => x := by
  rw [cutSigned?, cutSignedMantissa?, Option.map_map]
  refine congrArg (Option.map · _) (funext fun x => ?_)
  cases hy : cutExponent? x.2 with
  | some y => simp [hy]
  | none => simp [hy]

theorem takesLongest_signed : TakesLongest cutSigned? DecimalNumber where
  longest {s z} h := by
    rw [cutSigned?_eq] at h
    obtain ⟨x, hx, rfl⟩ := Option.map_eq_some_iff.mp h
    have hlongest := takesLongest_signedMantissa.longest hx
    have hjoin := joins_cutSignedMantissa? hx
    cases hy : cutExponent? x.2 with
    | some y => exact longest_decimal_of_exponent hlongest hjoin (takesLongest_exponent.longest hy)
    | none => exact longest_decimal_of_lacks hlongest hjoin (takesLongest_exponent.lacks hy)
  lacks {s} h q hq hdecimal := by
    rw [cutSigned?_eq, Option.map_eq_none_iff] at h
    have hlacks := takesLongest_signedMantissa.lacks h
    rcases hdecimal with hm | ⟨m, e, hm, -, rfl⟩
    · exact hlacks q hq hm
    · exact hlacks m ((List.prefix_append m e).trans hq) hm

/-- Where no minus sign is in front, the rule for numbers with an exponent takes
what the rule for decimal numbers would take, if that has an exponent. -/
theorem cutScientific?_cases {c : Char} {t : List Char} (hs : s = c :: t) (hc : c ≠ '-') :
    (∃ z, cutScientific? s = some z ∧ cutSigned? s = some z ∧ Scientific z.1) ∨
      (cutScientific? s = none ∧ Lacks Scientific s) := by
  subst hs
  have hsigned : cutSignedMantissa? (c :: t) = cutMantissa? (c :: t) := by
    simp [cutSignedMantissa?, cutOptional_of_ne t hc]
  cases hx : cutMantissa? (c :: t) with
  | none =>
      refine Or.inr ⟨by rw [cutScientific?, hx]; rfl, fun q hq => ?_⟩
      rintro ⟨m, e, hm, -, rfl⟩
      exact takesLongest_signedMantissa.lacks (hsigned.trans hx) m
        ((List.prefix_append m e).trans hq) hm
  | some x =>
      have hlongest := takesLongest_signedMantissa.longest (hsigned.trans hx)
      cases hy : cutExponent? x.2 with
      | none =>
          refine Or.inr ⟨by simp [cutScientific?, hx, hy], ?_⟩
          exact lacks_scientific hlongest (joins_cutMantissa? hx) (takesLongest_exponent.lacks hy)
      | some y =>
          refine Or.inl ⟨(x.1 ++ y.1, y.2), by simp [cutScientific?, hx, hy], ?_, ?_⟩
          · simp [cutSigned?_eq, hsigned, hx, hy]
          · exact ⟨x.1, y.1, hlongest.holds, (takesLongest_exponent.longest hy).holds, rfl⟩

end Scanners

/-! ## The rules for numbers -/

theorem exists_opensDecimal {p : List Char} (h : DecimalNumber p) :
    ∃ ch t, p = ch :: t ∧ (ch = '-' ∨ opensMantissa ch = true) := by
  have hmantissa (m : List Char) (hm : SignedMantissa m) :
      ∃ ch t, m = ch :: t ∧ (ch = '-' ∨ opensMantissa ch = true) := by
    obtain ⟨sign, m, hsign, hm, rfl⟩ := hm
    rcases hsign with rfl | rfl
    · obtain ⟨ch, t, rfl, hch⟩ := exists_opensMantissa hm
      exact ⟨ch, t, rfl, Or.inr hch⟩
    · exact ⟨'-', m, rfl, Or.inl rfl⟩
  rcases h with hm | ⟨m, e, hm, -, rfl⟩
  · exact hmantissa p hm
  · obtain ⟨ch, t, rfl, hch⟩ := hmantissa m hm
    exact ⟨ch, t ++ e, rfl, hch⟩

theorem decimal_of_isDigit {d : Char} (hd : isDigit d = true) : DecimalNumber [d] :=
  Or.inl ⟨[], [d], Or.inl rfl, .whole ⟨by simp, by simpa using hd⟩, rfl⟩

/-- A match passes between a word and digits only where it begins with no digit. -/
theorem admits_boundaryBeforeDigit {before : Option Char} {ch : Char} (t rest : List Char) :
    Guard.boundaryBeforeDigit.admits before (ch :: t) rest = true ↔
      (isNumeral ch = true → NoWordBehind before) := by
  cases before with
  | none => simp [Guard.admits, NoWordBehind]
  | some b => cases hch : isNumeral ch <;> simp [Guard.admits, NoWordBehind, hch]

namespace Cursor

variable {c : Cursor} {s : List Char}

/-- In front of a digit, a dot or a minus sign the rules for numbers come first. -/
theorem match?_of_number {ch : Char} (hmode : c.mode = .root) (hrest : c.rest = ch :: s)
    (hch : ch = '-' ∨ opensMantissa ch = true) :
    ∃ rules, c.match? = c.firstMatch? (.hex :: .scientific :: .decimal :: .integer :: rules) := by
  have hothers : ∀ e ∈ Mode.rootOpenings.take 9, e.2 ch = false := by
    rcases hch with rfl | hch
    · decide
    rcases Bool.or_eq_true_iff.mp hch with hdigit | hdot
    · have hblank : isBlank ch = false := by
        refine Bool.eq_false_iff.mpr fun hblank => ?_
        rw [isDigit_of_isBlank hblank] at hdigit
        cases hdigit
      have hne (d : Char) (hd : isDigit d = false) : ch ≠ d := by
        rintro rfl
        rw [hd] at hdigit
        cases hdigit
      simp [Mode.rootOpenings, opensLead, hblank, hne '/' (by decide), hne '@' (by decide),
        hne '#' (by decide), hne '\n' (by decide), hne '\\' (by decide), hne '"' (by decide)]
    · obtain rfl : ch = '.' := by simpa using hdot
      decide
  have hskip : ∀ e ∈ Mode.rootOpenings.take 9, e.1.OpensOn e.2 ∧ e.2 ch = false := fun e he =>
    ⟨Mode.opensOn_rootOpenings e (List.mem_of_mem_take he), hothers e he⟩
  refine ⟨(Mode.rootOpenings.drop 13).map Prod.fst, ?_⟩
  rw [match?_eq_firstMatch?, hmode]
  exact firstMatch?_skip hrest hskip

theorem head?_lexemes_of_plain {l : Lexeme} {rest : List Char} {move : Move} (hrest : c.rest ≠ [])
    (hm : c.match? = some (.plain [l] rest move)) : c.lexemes.head? = some l := by
  rw [lexemes_of_step? (step?_of_plain hrest hm)]
  rfl

theorem head?_lexemes_of_hex {z : Cut} (hmode : c.mode = .root) (hz : cutHex? c.rest = some z) :
    c.lexemes.head? = some ⟨.hex, z.1⟩ := by
  obtain ⟨x, digits, -, -, hp⟩ := (takesLongest_hex.longest hz).holds
  have hrest : c.rest = '0' :: x :: digits ++ z.2 := by rw [← hp, joins_cutHex? hz]
  obtain ⟨rules, hm⟩ := match?_of_number hmode hrest (Or.inr rfl)
  have hfirst := firstMatch?_of_scan (.scientific :: .decimal :: .integer :: rules)
    (show Rule.hex.find? c.before c.rest = _ from rfl) hz (by simp [hp])
  exact head?_lexemes_of_plain (by simp [hrest]) (hm.trans hfirst)

section Decimals

variable {z : Cut} (hmode : c.mode = .root) (hhex : cutHex? c.rest = none)
  (hz : cutSigned? c.rest = some z)

include hmode hhex hz

/-- Where no hexadecimal number is in front, the first character of a decimal
number is at hand, and two more rules count in front of it. -/
theorem exists_match?_of_decimal :
    ∃ ch t s rules, z.1 = ch :: t ∧ c.rest = ch :: s ∧ (ch = '-' ∨ opensMantissa ch = true) ∧
      c.match? = c.firstMatch? (.scientific :: .decimal :: .integer :: rules) := by
  obtain ⟨ch, t, hp, hch⟩ := exists_opensDecimal (takesLongest_signed.longest hz).holds
  have hrest : c.rest = ch :: (t ++ z.2) := by rw [← joins_cutSigned? hz, hp]; rfl
  obtain ⟨rules, hm⟩ := match?_of_number hmode hrest hch
  have hnone : Rule.hex.find? c.before c.rest = none := by simp [Rule.hex, Rule.one, hhex]
  exact ⟨ch, t, _, rules, hp, hrest, hch, hm.trans (firstMatch?_of_none _ hnone)⟩

/-- A decimal number with an exponent is taken wherever it stands, another one
only where it does not continue a word. -/
theorem head?_lexemes_of_decimal
    (h : ¬OpensDigits c.rest ∨ NoWordBehind c.before ∨ Scientific z.1) :
    c.lexemes.head? = some ⟨.float, z.1⟩ := by
  obtain ⟨ch, t, s, rules, hp, hrest, hch, hm⟩ := exists_match?_of_decimal hmode hhex hz
  have hne : c.rest ≠ [] := by simp [hrest]
  have htext : z.1 ≠ [] := by simp [hp]
  suffices hfirst : c.firstMatch? (.scientific :: .decimal :: .integer :: rules) =
      some (.plain [⟨.float, z.1⟩] z.2 .stay) from head?_lexemes_of_plain hne (hm.trans hfirst)
  have hdecimal (hguard : isNumeral ch = true → NoWordBehind c.before) :
      c.firstMatch? (.decimal :: .integer :: rules) = some (.plain [⟨.float, z.1⟩] z.2 .stay) := by
    have hadmits := (admits_boundaryBeforeDigit t z.2).mpr hguard
    rw [← hp] at hadmits
    refine firstMatch?_of_some _ ?_ (advancesBy_of_text_ne_nil ?_)
    · simp only [Rule.decimal, Rule.guarded, hz, Option.filter_some, hadmits, if_true,
        Option.map_some, lexemeOf, if_neg htext]
    · simpa using htext
  by_cases hminus : ch = '-'
  · subst hminus
    rw [firstMatch?_of_none _ (by rw [hrest]; exact Rule.opensOn_scientific _ _ _ rfl)]
    exact hdecimal fun h => absurd h (by decide)
  rcases cutScientific?_cases hrest hminus with ⟨y, hy, hsame, -⟩ | ⟨hnone, hlacks⟩
  · obtain rfl := Option.some.inj (hsame.symm.trans hz)
    exact firstMatch?_of_scan _ rfl hy htext
  · rw [firstMatch?_of_none _ (by simp [Rule.scientific, Rule.one, hnone])]
    refine hdecimal fun hnumeral => ?_
    rcases h with hdigits | hbefore | hscientific
    · -- The dot is no numeral, and anything else would be a digit.
      refine absurd hnumeral ?_
      rcases Bool.or_eq_true_iff.mp (hch.resolve_left hminus) with hdigit | hdot
      · exact absurd ⟨ch, s, hrest, hdigit⟩ hdigits
      · obtain rfl : ch = '.' := by simpa using hdot
        decide
    · exact hbefore
    · exact absurd hscientific (hlacks z.1 (takesLongest_signed.longest hz).front)

/-- Digits that continue a word are taken alone. -/
theorem exists_head?_lexemes_of_integer
    (h : OpensDigits c.rest ∧ ¬NoWordBehind c.before ∧ ¬Scientific z.1) :
    ∃ run, Longest Digits c.rest run ∧ c.lexemes.head? = some ⟨.integer, run⟩ := by
  obtain ⟨⟨d, u, hopens, hdigit⟩, hword, hplain⟩ := h
  obtain ⟨ch, t, s, rules, hp, hrest, -, hm⟩ := exists_match?_of_decimal hmode hhex hz
  obtain ⟨rfl, rfl⟩ := List.cons.inj (hopens.symm.trans hrest)
  have hminus : d ≠ '-' := by
    rintro rfl
    cases hdigit
  have hscientific : Rule.scientific.find? c.before c.rest = none := by
    rcases cutScientific?_cases hrest hminus with ⟨y, -, hsame, hy⟩ | ⟨hnone, -⟩
    · obtain rfl := Option.some.inj (hsame.symm.trans hz)
      exact absurd hy hplain
    · simp [Rule.scientific, Rule.one, hnone]
  have hdecimal : Rule.decimal.find? c.before c.rest = none := by
    have hrejects : Guard.boundaryBeforeDigit.admits c.before z.1 z.2 = false := by
      rw [hp, Bool.eq_false_iff, Ne, admits_boundaryBeforeDigit]
      exact fun h => hword (h (isNumeral_of_isDigit hdigit))
    simp [Rule.decimal, Rule.guarded, hz, hrejects]
  have hne : c.rest.takeWhile isDigit ≠ [] := by simp [hrest, hdigit]
  have hscan : cutRun? isDigit c.rest =
      some (c.rest.takeWhile isDigit, c.rest.dropWhile isDigit) := cutRun?_eq_some.mpr ⟨hne, rfl⟩
  refine ⟨_, (takesLongest_run isDigit).longest hscan, ?_⟩
  rw [firstMatch?_of_none _ hscientific, firstMatch?_of_none _ hdecimal,
    firstMatch?_of_scan rules rfl hscan hne] at hm
  exact head?_lexemes_of_plain (by simp [hrest]) hm

end Decimals

end Cursor

/-- **Numbers go on as far as they can.** In root mode, a hexadecimal number in
front of the cursor is the next token, with all hexadecimal digits that follow.
Otherwise the next token is the longest decimal number in front of the cursor;
but where that has no exponent and its first digit continues a word, the next
token is an integer, all the digits. -/
theorem numbers_take_longest {c : Cursor} (hmode : c.mode = .root) :
    (¬Lacks HexNumber c.rest →
        ∃ p, Longest HexNumber c.rest p ∧ c.lexemes.head? = some ⟨.hex, p⟩) ∧
      (Lacks HexNumber c.rest → ¬Lacks DecimalNumber c.rest →
        ∃ p, Longest DecimalNumber c.rest p ∧
          (¬OpensDigits c.rest ∨ NoWordBehind c.before ∨ Scientific p →
            c.lexemes.head? = some ⟨.float, p⟩) ∧
          (OpensDigits c.rest ∧ ¬NoWordBehind c.before ∧ ¬Scientific p →
            ∃ run, Longest Digits c.rest run ∧ c.lexemes.head? = some ⟨.integer, run⟩)) ∧
      (OpensDigits c.rest → ¬Lacks DecimalNumber c.rest) := by
  refine ⟨?_, ?_, ?_⟩
  · intro hhas
    cases hz : cutHex? c.rest with
    | none => exact absurd (takesLongest_hex.lacks hz) hhas
    | some z => exact ⟨z.1, takesLongest_hex.longest hz, Cursor.head?_lexemes_of_hex hmode hz⟩
  · intro hlacks hhas
    have hhex : cutHex? c.rest = none := by
      refine Option.eq_none_iff_forall_ne_some.mpr fun z hz => ?_
      have hlongest := takesLongest_hex.longest hz
      exact hlacks z.1 hlongest.front hlongest.holds
    cases hz : cutSigned? c.rest with
    | none => exact absurd (takesLongest_signed.lacks hz) hhas
    | some z =>
        exact ⟨z.1, takesLongest_signed.longest hz,
          Cursor.head?_lexemes_of_decimal hmode hhex hz,
          Cursor.exists_head?_lexemes_of_integer hmode hhex hz⟩
  · rintro ⟨d, t, hrest, hdigit⟩ hlacks
    exact hlacks [d] ⟨t, hrest.symm⟩ (decimal_of_isDigit hdigit)

/-- Behind a word, a number with an exponent is still one number. The sign that
would begin a second exponent is not part of it. -/
theorem numbers_take_longest_exponent :
    (⟨some 'x', [.root], "12.e+3e-".toList⟩ : Cursor).mode = .root ∧
      Longest DecimalNumber "12.e+3e-".toList "12.e+3".toList ∧
      (⟨some 'x', [.root], "12.e+3e-".toList⟩ : Cursor).lexemes.head? =
        some ⟨.float, "12.e+3".toList⟩ := by
  have hhex : Lacks HexNumber "12.e+3e-".toList := takesLongest_hex.lacks (by decide)
  have hlongest : Longest DecimalNumber "12.e+3e-".toList "12.e+3".toList :=
    takesLongest_signed.longest (x := ("12.e+3".toList, "e-".toList)) (by decide)
  have hmantissa : SignedMantissa "12.".toList :=
    ⟨[], _, Or.inl rfl, .point (p := ['1', '2']) (q := []) ⟨by simp, by simp; decide⟩ (by simp),
      rfl⟩
  have hexponent : Exponent "e+3".toList :=
    .mk (p := ['3']) (Or.inl rfl) (Or.inr (Or.inl rfl)) ⟨by simp, by simp; decide⟩
  obtain ⟨p, hp, hfloat, -⟩ := (numbers_take_longest
    (c := ⟨some 'x', [.root], "12.e+3e-".toList⟩) rfl).2.1 hhex
      (fun hlacks => hlacks _ hlongest.front hlongest.holds)
  obtain rfl := hp.unique hlongest
  exact ⟨rfl, hlongest, hfloat (Or.inr (Or.inr ⟨_, _, hmantissa, hexponent, rfl⟩))⟩

end GaussMarkup
