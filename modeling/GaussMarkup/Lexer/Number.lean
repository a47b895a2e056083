import GaussMarkup.Lexer.Rule

/-!
# Numbers

A number is `0x` with hexadecimal digits, or an optional minus sign, a mantissa and an optional
exponent. A mantissa is a run of digits with an optional fraction, or a fraction alone; digits of
all scripts count. Digits that directly follow a letter or another numeral are an integer of their
own unless they have an exponent.
-/

namespace GaussMarkup

/-- Digits with an optional fraction, or a fraction alone. -/
def cutMantissa? (s : List Char) : Option Cut :=
  match s.takeWhile isDigit, s.dropWhile isDigit with
  | [], '.' :: t => (cutRun? isDigit t).map fun x => ('.' :: x.1, x.2)
  | [], _ => none
  | d :: ds, '.' :: t => some (d :: ds ++ '.' :: t.takeWhile isDigit, t.dropWhile isDigit)
  | d :: ds, t => some (d :: ds, t)

/-- A sign, if there is one. -/
def cutSign : List Char → Cut
  | [] => ([], [])
  | c :: s => if c = '+' ∨ c = '-' then ([c], s) else ([], c :: s)

/-- The mark of an exponent, an optional sign and digits. -/
def cutExponent? : List Char → Option Cut
  | [] => none
  | c :: s =>
    if c = 'e' ∨ c = 'E' then
      (cutRun? isDigit (cutSign s).2).map fun x => (c :: (cutSign s).1 ++ x.1, x.2)
    else none

/-- A `0x` with at least one hexadecimal digit, and all that follow. -/
def cutHex? (s : List Char) : Option Cut :=
  (cutWord? ['0', 'x'] s).bind fun x => (cutRun? isHexDigit x.2).map fun y => (x.1 ++ y.1, y.2)

def cutScientific? (s : List Char) : Option Cut :=
  (cutMantissa? s).bind fun x => (cutExponent? x.2).map fun y => (x.1 ++ y.1, y.2)

/-- An optional minus sign, a mantissa and an optional exponent. -/
def cutSigned? (s : List Char) : Option Cut :=
  let sign := cutOptional '-' s
  (cutMantissa? sign.2).map fun x =>
    match cutExponent? x.2 with
    | some y => (sign.1 ++ x.1 ++ y.1, y.2)
    | none => (sign.1 ++ x.1, x.2)

theorem joins_cutMantissa? : Joins cutMantissa? := by
  intro s c h
  have hs : s.takeWhile isDigit ++ s.dropWhile isDigit = s := List.takeWhile_append_dropWhile
  unfold cutMantissa? at h
  split at h
  · next t hd ht =>
    obtain ⟨x, hx, rfl⟩ := Option.map_eq_some_iff.1 h
    rw [hd, ht] at hs
    simpa [joins_cutRun? _ hx] using hs
  · simp at h
  · next d ds t hd ht =>
    obtain rfl := Option.some.inj h
    rw [hd, ht] at hs
    simpa [List.takeWhile_append_dropWhile] using hs
  · next hd _ =>
    obtain rfl := Option.some.inj h
    rwa [hd] at hs

@[simp] theorem cutSign_join (s : List Char) : (cutSign s).1 ++ (cutSign s).2 = s := by
  cases s with
  | nil => rfl
  | cons c s => simp only [cutSign]; split <;> rfl

theorem joins_cutExponent? : Joins cutExponent?
  | [], c, h => by simp [cutExponent?] at h
  | d :: s, c, h => by
      simp only [cutExponent?] at h
      split at h
      · obtain ⟨x, hx, rfl⟩ := Option.map_eq_some_iff.1 h
        simp [joins_cutRun? _ hx]
      · simp at h

theorem joins_cutHex? : Joins cutHex? := by
  intro s c h
  obtain ⟨x, hx, h⟩ := Option.bind_eq_some_iff.1 h
  obtain ⟨y, hy, rfl⟩ := Option.map_eq_some_iff.1 h
  rw [← joins_cutWord? _ hx, ← joins_cutRun? _ hy]
  simp

theorem joins_cutScientific? : Joins cutScientific? := by
  intro s c h
  obtain ⟨x, hx, h⟩ := Option.bind_eq_some_iff.1 h
  obtain ⟨y, hy, rfl⟩ := Option.map_eq_some_iff.1 h
  rw [← joins_cutMantissa? hx, ← joins_cutExponent? hy]
  simp

theorem joins_cutSigned? : Joins cutSigned? := by
  intro s c h
  obtain ⟨x, hx, rfl⟩ := Option.map_eq_some_iff.1 h
  have hs := cutOptional_join '-' s
  rw [← joins_cutMantissa? hx] at hs
  split
  · next y hy =>
    rw [← joins_cutExponent? hy] at hs
    simpa using hs
  · simpa using hs

namespace Rule

def hex : Rule :=
  one .hex .stay cutHex? joins_cutHex?

/-- A number with an exponent, wherever it stands. -/
def scientific : Rule :=
  one .float .stay cutScientific? joins_cutScientific?

/-- A decimal number, which does not continue a word. -/
def decimal : Rule :=
  guarded .float .stay cutSigned? .boundaryBeforeDigit joins_cutSigned?

/-- Digits that continue a word. -/
def integer : Rule :=
  one .integer .stay (cutRun? isDigit) (joins_cutRun? _)

end Rule

end GaussMarkup
