import GaussMarkup.Toml.Text

/-!
# Dates and times of TOML

A date, a time of day, or both with or without their distance from universal time. They are checked
and brought into normal form: a `T` between date and time, no zeros at the end of a fraction of a
second and of that no more than nine digits, and the distance in hours and minutes of at most a day.
-/

namespace GaussMarkup.Toml

/-- The largest numbers that may be written in a time. -/
structure TimeBounds where
  hour : Nat
  offsetHours : Nat
  offsetMinutes : Nat
  deriving DecidableEq, Repr

/-- A value of a document keeps to the clock. -/
def TimeBounds.literal : TimeBounds := ⟨23, 23, 59⟩

/-- A string may count up to the end of the day and leave hours uncarried. -/
def TimeBounds.quoted : TimeBounds := ⟨24, 99, 99⟩

/-- Two digits, as a number in bounds. -/
def twoDigits? (least most : Nat) : List Char → Read Nat
  | a :: b :: s =>
    let n := valueOf 10 [a, b]
    if a.isDigit && b.isDigit && least ≤ n && n ≤ most then some (n, s) else none
  | _ => none

def daysIn (year month : Nat) : Nat :=
  if month = 2 then
    if year % 4 = 0 ∧ (year % 100 ≠ 0 ∨ year % 400 = 0) then 29 else 28
  else if month = 4 ∨ month = 6 ∨ month = 9 ∨ month = 11 then 30
  else 31

def padded (n : Nat) : List Char :=
  List.replicate (2 - (Nat.toDigits 10 n).length) '0' ++ Nat.toDigits 10 n

def readDate (s : List Char) : Read (List Char) :=
  let year := s.take 4
  match s.drop 4 with
  | '-' :: t =>
    if year.length = 4 && year.all Char.isDigit then
      (twoDigits? 1 12 t).bind fun month =>
        match month.2 with
        | '-' :: u =>
          (twoDigits? 1 (daysIn (valueOf 10 year) month.1) u).map fun day =>
            (year ++ '-' :: padded month.1 ++ '-' :: padded day.1, day.2)
        | _ => none
    else none
  | _ => none

/-- A fraction of a second, in normal form. -/
def readFraction : List Char → Read (List Char)
  | '.' :: s =>
    let digits := s.takeWhile Char.isDigit
    let kept := ((digits.take 9).reverse.dropWhile (· == '0')).reverse
    if digits = [] then none
    else some (if kept = [] then [] else '.' :: kept, s.dropWhile Char.isDigit)
  | s => some ([], s)

/-- A time of day, in normal form. -/
def readTime (bounds : TimeBounds) (s : List Char) : Read (List Char) :=
  (twoDigits? 0 bounds.hour s).bind fun hour =>
    match hour.2 with
    | ':' :: t =>
      (twoDigits? 0 59 t).bind fun minute =>
        match minute.2 with
        | ':' :: u =>
          (twoDigits? 0 60 u).bind fun second =>
            (readFraction second.2).map fun fraction =>
              (padded hour.1 ++ ':' :: padded minute.1 ++ ':' :: padded second.1 ++ fraction.1,
                fraction.2)
        | _ => none
    | _ => none

/-- The distance from universal time, in normal form. -/
def readOffset (bounds : TimeBounds) (s : List Char) : Read (List Char) :=
  match s with
  | [] => some ([], [])
  | c :: t =>
    if c = 'Z' || c = 'z' then some (['Z'], t)
    else if c = '+' || c = '-' then
      (twoDigits? 0 bounds.offsetHours t).bind fun hours =>
        match hours.2 with
        | ':' :: u =>
          (twoDigits? 0 bounds.offsetMinutes u).bind fun minutes =>
            let total := 60 * hours.1 + minutes.1
            let sign := if total = 0 then '+' else c
            if total ≤ 24 * 60 then
              some (sign :: padded (total / 60) ++ ':' :: padded (total % 60), minutes.2)
            else none
        | _ => none
    else none

/-- The normal form of a date, a time, or both with or without an offset, if the text is one. -/
def dateTime? (bounds : TimeBounds) (s : List Char) : Option (List Char) :=
  match readDate s with
  | some (date, []) => some date
  | some (date, c :: t) =>
    if c = 'T' || c = 't' || c = ' ' then
      (readTime bounds t).bind fun time =>
        (readOffset bounds time.2).bind fun offset =>
          if offset.2 = [] then some (date ++ 'T' :: time.1 ++ offset.1) else none
    else none
  | none => (readTime bounds s).bind fun time => if time.2 = [] then some time.1 else none

end GaussMarkup.Toml
