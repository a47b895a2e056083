import GaussMarkup.Decimal.Binary

/-!
# The shortest decimal for a binary number

A binary number is printed with the fewest decimal digits that read back as that number: of all
decimals that lie closer to it than to its neighbours, one on the coarsest decimal grid, and there
the nearest. A decimal halfway to a neighbour counts as close if the last binary digit is even, and
of two equally near decimals the larger is taken. All of this is compared in quarters of a unit.
-/

namespace GaussMarkup

/-- The number `digits * 10 ^ exponent`. -/
structure Decimal where
  digits : Nat
  exponent : Int
  deriving DecidableEq, Repr, Inhabited

/-- The decimals that read back as one binary number, in quarters of its unit. -/
structure DecimalInterval where
  /-- The number itself. -/
  value : Nat
  low : Nat
  high : Nat
  /-- Whether the bounds belong to it. -/
  closed : Bool
  /-- How many quarters make one. -/
  one : Nat
  deriving Repr

/-- The interval of decimals around a number of `units` units. -/
def BinaryFormat.interval (f : BinaryFormat) (units : Nat) : DecimalInterval :=
  let gap := f.spacing units
  let isPower := units == Nat.pow 2 (f.precision - 1) * gap && 1 < gap
  { value := 4 * units
    low := 4 * units - (if isPower then gap else 2 * gap)
    high := 4 * units + 2 * gap
    closed := units / gap % 2 == 0
    one := 4 * Nat.pow 2 f.scale }

namespace DecimalInterval

/-- Whether `n`, with a common factor `up` on the interval's side, lies in the interval. -/
def contains (i : DecimalInterval) (up n : Nat) : Bool :=
  if i.closed then i.low * up ≤ n && n ≤ i.high * up else i.low * up < n && n < i.high * up

/-- The multiple of `10 ^ k` in the interval that is nearest to its value. -/
def onGrid? (i : DecimalInterval) (k : Int) : Option Nat :=
  let up := Nat.pow 10 (-k).toNat
  let step := i.one * Nat.pow 10 k.toNat
  let v := i.value * up
  let below := v / step
  let hitsBelow := i.contains up (below * step)
  let hitsAbove := i.contains up ((below + 1) * step)
  if hitsBelow && (!hitsAbove || 2 * (v % step) < step) then some below
  else if hitsAbove then some (below + 1)
  else none

/-- The first hit on the grids of `10 ^ k`, `10 ^ (k - 1)` and so on. -/
def shortestFrom (i : DecimalInterval) (k : Int) : (fuel : Nat) → Decimal
  | 0 => ⟨0, 0⟩
  | fuel + 1 =>
    match i.onGrid? k with
    | some digits => ⟨digits, k⟩
    | none => i.shortestFrom (k - 1) fuel

end DecimalInterval

/-- The shortest decimal for a number of `units` units. -/
def BinaryFormat.shortest (f : BinaryFormat) (units : Nat) : Decimal :=
  let i := f.interval units
  let whole := (Nat.toDigits 10 (i.value / i.one)).length
  i.shortestFrom whole (whole + f.scale + 1)

/-- A decimal in positional form, without a sign and without needless zeros. -/
def Decimal.text (d : Decimal) : List Char :=
  let digits := Nat.toDigits 10 d.digits
  match d.exponent with
  | .ofNat e => if d.digits = 0 then ['0'] else digits ++ List.replicate e '0'
  | .negSucc e =>
    let places := e + 1
    let padded := List.replicate (places + 1 - digits.length) '0' ++ digits
    padded.take (padded.length - places) ++ '.' :: padded.drop (padded.length - places)

/-- A binary number in positional form: the shortest decimal, or the name of what is not finite. -/
def BinaryFormat.text (f : BinaryFormat) : Binary → List Char
  | .nan => "NaN".toList
  | .infinite negative => (if negative then "-inf" else "inf").toList
  | .finite negative units =>
    (if negative then ['-'] else []) ++ (if units = 0 then ['0'] else (f.shortest units).text)

end GaussMarkup
