import GaussMarkup.Toml.Basic
import GaussMarkup.Toml.DateTime

/-!
# Numbers, dates and words of TOML

A value that is no string, array or table is one word. Digits may be grouped by single underscores.
Whole numbers fit in 64 bits with a sign; fractions are read to the nearest binary number.
-/

namespace GaussMarkup.Toml

/-- Characters of such a word. -/
def isScalarChar (c : Char) : Bool :=
  c.isAlphanum || c == '_' || c == '+' || c == '-' || c == '.' || c == ':'

/-- Digits without the underscores between them. -/
def ungroup? (isDigit : Char → Bool) : List Char → Option (List Char)
  | [] => none
  | [c] => if isDigit c then some [c] else none
  | c :: '_' :: s => if isDigit c then (ungroup? isDigit s).map (c :: ·) else none
  | c :: s => if isDigit c then (ungroup? isDigit s).map (c :: ·) else none

/-- A sign, and whether it is a minus. -/
def splitSign : List Char → Bool × List Char
  | '-' :: s => (true, s)
  | '+' :: s => (false, s)
  | s => (false, s)

/-- A whole number, if it fits in 64 bits with a sign. -/
def integer? (negative : Bool) (n : Nat) : Option Node :=
  let value : Int := if negative then -(n : Int) else n
  if Int64.minValue.toInt ≤ value ∧ value ≤ Int64.maxValue.toInt then some (.integer value)
  else none

/-- The digits in front of a fraction or exponent; a zero at the start stands alone. -/
def wholeDigits? (s : List Char) : Option (List Char) :=
  (ungroup? Char.isDigit s).filter fun digits => digits == ['0'] || digits.head? != some '0'

/-- A number with a fraction, an exponent or both. One that is too large is refused. -/
def float? (negative : Bool) (s : List Char) : Option Node :=
  let isExponentMark := fun c => c == 'e' || c == 'E'
  let mantissa := s.takeWhile fun c => !isExponentMark c
  let whole := mantissa.takeWhile (· != '.')
  let fraction? := match mantissa.dropWhile (· != '.') with
    | [] => some []
    | _ :: t => ungroup? Char.isDigit t
  let exponent? : Option Int := match s.dropWhile fun c => !isExponentMark c with
    | [] => some 0
    | _ :: t =>
      let (minus, digits) := splitSign t
      (ungroup? Char.isDigit digits).map fun d =>
        if minus then -(valueOf 10 d : Int) else valueOf 10 d
  match wholeDigits? whole, fraction?, exponent? with
  | some w, some f, some e =>
    let x := binary64.ofDecimal negative (valueOf 10 (w ++ f)) (e - f.length)
    if x = .infinite false then none else some (.float x)
  | _, _, _ => none

def number? (word : List Char) : Option Node :=
  match word with
  | '0' :: 'x' :: s => (ungroup? isHexDigit s).bind fun d => integer? false (valueOf 16 d)
  | '0' :: 'o' :: s => (ungroup? isOctalDigit s).bind fun d => integer? false (valueOf 8 d)
  | '0' :: 'b' :: s =>
    (ungroup? (fun c => c == '0' || c == '1') s).bind fun d => integer? false (valueOf 2 d)
  | _ =>
    let (negative, s) := splitSign word
    if s = "inf".toList then some (.float (.infinite negative))
    else if s = "nan".toList then some (.float .nan)
    else if s.any fun c => c == '.' || c == 'e' || c == 'E' then float? negative s
    else (wholeDigits? s).bind fun d => integer? negative (valueOf 10 d)

/-- The word in front; a date takes the time behind a space with it. -/
def scalarWord (s : List Char) : List Char × List Char :=
  let word := s.takeWhile isScalarChar
  let rest := s.dropWhile isScalarChar
  match readDate word, rest with
  | some (_, []), ' ' :: t =>
    match twoDigits? 0 99 t with
    | some (_, ':' :: _) => (word ++ ' ' :: t.takeWhile isScalarChar, t.dropWhile isScalarChar)
    | _ => (word, rest)
  | _, _ => (word, rest)

/-- A value that is one word. -/
def readScalar (s : List Char) : Read Node :=
  let (word, rest) := scalarWord s
  let node :=
    if word = "true".toList then some (.boolean true)
    else if word = "false".toList then some (.boolean false)
    else ((dateTime? .literal word).map .dateTime).or (number? word)
  node.map fun n => (n, rest)

end GaussMarkup.Toml
