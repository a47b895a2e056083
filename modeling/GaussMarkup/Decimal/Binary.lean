/-!
# Binary floating-point numbers

Numbers with a fixed count of binary digits. A finite number is a whole number of units, the unit
being the smallest positive number of the format; so comparing and rounding are done on natural
numbers and nothing is lost on the way.
-/

namespace GaussMarkup

/-- A format of binary numbers. -/
structure BinaryFormat where
  /-- How many binary digits a number has. -/
  precision : Nat
  /-- One is `2 ^ scale` units. -/
  scale : Nat
  /-- The largest numbers are multiples of `2 ^ top` units. -/
  top : Nat
  deriving DecidableEq, Repr

def binary32 : BinaryFormat := ⟨24, 149, 253⟩

def binary64 : BinaryFormat := ⟨53, 1074, 2045⟩

/-- A number of a binary format, of either sign or no number at all. -/
inductive Binary
  | nan
  | infinite (negative : Bool)
  | finite (negative : Bool) (units : Nat)
  deriving DecidableEq, Repr, Inhabited

/-- The quotient `a / b` to the nearest natural number, a half to the even one. -/
def roundDivEven (a b : Nat) : Nat :=
  let q := a / b
  let twice := 2 * (a % b)
  if twice < b then q else if b < twice then q + 1 else q + q % 2

/-- The quotient `a / b` to the nearest natural number, a half upwards. -/
def roundDivUp (a b : Nat) : Nat :=
  (2 * a + b) / (2 * b)

namespace BinaryFormat

/-- The units between neighbouring numbers, for numbers of about `n` units. -/
def spacing (f : BinaryFormat) (n : Nat) : Nat :=
  Nat.pow 2 (n.log2 + 1 - f.precision)

/-- The largest finite number, in units. -/
def largest (f : BinaryFormat) : Nat :=
  (Nat.pow 2 f.precision - 1) * Nat.pow 2 f.top

/-- The number nearest to `± a / b`; beyond the largest number it is infinite. -/
def nearest (f : BinaryFormat) (negative : Bool) (a b : Nat) : Binary :=
  let n := a * Nat.pow 2 f.scale
  let gap := f.spacing (n / b)
  let units := roundDivEven n (b * gap) * gap
  if f.largest < units then .infinite negative else .finite negative units

/-- The number nearest to `± digits * 10 ^ exponent`. Exponents far outside the format are not
computed with. -/
def ofDecimal (f : BinaryFormat) (negative : Bool) (digits : Nat) (exponent : Int) : Binary :=
  let magnitude := exponent + (Nat.toDigits 10 digits).length
  if digits = 0 ∨ magnitude < -(f.scale : Int) then .finite negative 0
  else if (f.scale : Int) < magnitude then .infinite negative
  else
    match exponent with
    | .ofNat e => f.nearest negative (digits * Nat.pow 10 e) 1
    | .negSucc e => f.nearest negative digits (Nat.pow 10 (e + 1))

/-- A number of the format `f` in the format `g`. -/
def convert (f g : BinaryFormat) : Binary → Binary
  | .finite negative units => g.nearest negative units (Nat.pow 2 f.scale)
  | x => x

end BinaryFormat

namespace Binary

/-- The units of a finite number with its sign. -/
def signedUnits (negative : Bool) (units : Nat) : Int :=
  if negative then -(units : Int) else units

/-- Whether one number is less than another of the same format; nothing is less than no number. -/
def lt : Binary → Binary → Bool
  | .nan, _ | _, .nan => false
  | .infinite true, y => y != .infinite true
  | .infinite false, _ => false
  | .finite _ _, .infinite negative => !negative
  | .finite s m, .finite t n => signedUnits s m < signedUnits t n

/-- Whether a number is zero, of either sign. -/
def isZero : Binary → Bool
  | .finite _ 0 => true
  | _ => false

/-- A number brought between two bounds; no number stays none. -/
def clamp (x low high : Binary) : Binary :=
  if x.lt low then low else if high.lt x then high else x

/-- A number of the format `f` to the nearest natural number, a half upwards, at most `most`. What
is negative or no number gives zero. -/
def toNatClamped (f : BinaryFormat) (most : Nat) : Binary → Nat
  | .finite false units => min most (roundDivUp units (Nat.pow 2 f.scale))
  | .infinite false => most
  | _ => 0

end Binary

end GaussMarkup
