import GaussMarkup.Settings.Tree

/-!
# Paths of keys

A path leads into a tree of settings by names between dots and positions in brackets, as in
`roles.default_role` and `list[-1]`. Assigning along a path makes the tables and arrays that are
missing on the way. Positions below zero count from the end.
-/

namespace GaussMarkup

/-- A step into a setting. -/
inductive KeyStep
  | field (name : List Char)
  | item (position : Int)
  deriving DecidableEq, Repr

/-- A way into a tree of settings. -/
abbrev KeyPath := List KeyStep

namespace KeyPath

/-- Characters of names. -/
def isNameChar (c : Char) : Bool :=
  c.isAlphanum || c == '_' || c == '-' || c == ' '

def readName (s : List Char) : Option (List Char × List Char) :=
  if s.takeWhile isNameChar = [] then none
  else some (s.takeWhile isNameChar, s.dropWhile isNameChar)

def decimalValue (digits : List Char) : Nat :=
  digits.foldl (fun n c => n * 10 + (c.toNat - '0'.toNat)) 0

/-- A position of 64 bits with its closing bracket, and the text behind them. -/
def readPosition (s : List Char) : Option (Int × List Char) :=
  let isSpace := fun c => c == ' ' || c == '\t'
  let s := s.dropWhile isSpace
  let negative := s.head? == some '-'
  let s := if negative then s.drop 1 else s
  let digits := s.takeWhile Char.isDigit
  let magnitude : Int := decimalValue digits
  let position := if negative then -magnitude else magnitude
  match (s.dropWhile Char.isDigit).dropWhile isSpace with
  | ']' :: t =>
    if digits ≠ [] ∧ Int64.minValue.toInt ≤ position ∧ position ≤ Int64.maxValue.toInt then
      some (position, t)
    else none
  | _ => none

/-- The steps behind the first. Each takes at least one character. -/
def readSteps : (bound : Nat) → List Char → Option KeyPath
  | _, [] => some []
  | 0, _ => none
  | bound + 1, '.' :: s =>
    (readName s).bind fun x => (readSteps bound x.2).map (.field x.1 :: ·)
  | bound + 1, '[' :: s =>
    (readPosition s).bind fun x => (readSteps bound x.2).map (.item x.1 :: ·)
  | _, _ => none

/-- The path that a text spells. -/
def parse? (s : List Char) : Option KeyPath :=
  (readName s).bind fun x => (readSteps x.2.length x.2).map (.field x.1 :: ·)

end KeyPath

namespace Setting

/-- The place of a position among `size` items, if it is not in front of them. -/
def place? (position : Int) (size : Nat) : Option Nat :=
  match position with
  | .ofNat n => some n
  | .negSucc n => if n < size then some (size - (n + 1)) else none

/-- Items with as many missing ones behind them as it takes to have `size` of them. -/
def padTo (size : Nat) (items : List Setting) : List Setting :=
  items ++ List.replicate (size - items.length) missing

/-- An array with another item at a position. A position in front of the array makes room there. -/
def setItem (s : Setting) (position : Int) (value : Setting) : Setting :=
  let (origin, items) := s.asArray
  match place? position items.length with
  | some n => .array origin ((padTo (n + 1) items).set n value)
  | none =>
    let room := List.replicate (position.natAbs - items.length) missing
    .array origin ((room ++ items).set 0 value)

/-- Assigns a value at the end of a path. On the way nothing is put in front of an array: such a
path leads nowhere. -/
def assign (value : Setting) : KeyPath → (here : Setting) → Setting
  | [], here => here
  | [.field name], here => put name value here
  | [.item position], here => here.setItem position value
  | .field name :: path, here =>
    here.setField (lowercase name)
      (assign value path ((here.field? (lowercase name)).getD missing))
  | .item position :: path, here =>
    let (origin, items) := here.asArray
    match place? position items.length with
    | none => .array origin items
    | some n => .array origin ((padTo (n + 1) items).modify n (assign value path))

end Setting

end GaussMarkup
