import GaussMarkup.Text.CharClass

/-!
# Strings and keys of TOML

Basic strings have escapes and literal ones have none; both exist on one line and over several. In
a string over several lines the line feed directly behind the opening quotes is dropped, and a
backslash at the end of a line joins it to the next word. Up to two quotes may stand in front of the
closing three. Control characters other than tabs are refused.
-/

namespace GaussMarkup.Toml

/-- A piece that was read and the text behind it. -/
abbrev Read (α : Type) := Option (α × List Char)

/-- Characters that may stand in strings and comments. -/
def isPlain (c : Char) : Bool :=
  c == '\t' || (0x20 ≤ c.toNat && c.toNat != 0x7F)

def isSpace (c : Char) : Bool :=
  c == ' ' || c == '\t'

def isBareKeyChar (c : Char) : Bool :=
  c.isAlphanum || c == '_' || c == '-'

def hexValue (c : Char) : Nat :=
  if c.isDigit then c.toNat - '0'.toNat
  else if 'a' ≤ c then c.toNat - 'a'.toNat + 10
  else c.toNat - 'A'.toNat + 10

/-- The value of digits in a base. -/
def valueOf (base : Nat) (digits : List Char) : Nat :=
  digits.foldl (fun n c => n * base + hexValue c) 0

/-- The character of a code point in hexadecimal digits. -/
def codePoint? (digits : List Char) : Option Char :=
  if digits.all isHexDigit then
    let n := valueOf 16 digits
    if h : n.isValidChar then some (Char.ofNatAux n h) else none
  else none

/-- The character that a one-letter escape stands for. -/
def escaped? : Char → Option Char
  | 'b' => some '\x08'
  | 't' => some '\t'
  | 'n' => some '\n'
  | 'f' => some '\x0c'
  | 'r' => some '\r'
  | '"' => some '"'
  | '\\' => some '\\'
  | _ => none

/-- Puts a character in front of a text that was read. -/
def withChar (c : Char) (r : Read (List Char)) : Read (List Char) :=
  r.map fun x => (c :: x.1, x.2)

/-- The rest of a basic string on one line. -/
def readBasic : List Char → Read (List Char)
  | [] => none
  | '"' :: s => some ([], s)
  | '\\' :: 'u' :: a :: b :: c :: d :: s =>
    (codePoint? [a, b, c, d]).bind fun ch => withChar ch (readBasic s)
  | '\\' :: 'U' :: a :: b :: c :: d :: e :: f :: g :: h :: s =>
    (codePoint? [a, b, c, d, e, f, g, h]).bind fun ch => withChar ch (readBasic s)
  | '\\' :: c :: s => (escaped? c).bind fun ch => withChar ch (readBasic s)
  | c :: s => if isPlain c && c != '\\' then withChar c (readBasic s) else none

/-- The rest of a literal string on one line. -/
def readLiteral : List Char → Read (List Char)
  | [] => none
  | c :: s =>
    if c = '\'' then some ([], s)
    else if isPlain c then withChar c (readLiteral s)
    else none

/-- Whether the line ends here but for blanks. -/
def endsLine (s : List Char) : Bool :=
  match s.dropWhile isSpace with
  | '\n' :: _ => true
  | '\r' :: '\n' :: _ => true
  | _ => false

/-- The rest of a basic string over several lines. While `joining`, blanks and line ends are
dropped. -/
def readLongBasic (joining : Bool) : List Char → Read (List Char)
  | [] => none
  | '"' :: '"' :: '"' :: '"' :: '"' :: s => some (['"', '"'], s)
  | '"' :: '"' :: '"' :: '"' :: s => some (['"'], s)
  | '"' :: '"' :: '"' :: s => some ([], s)
  | '\\' :: 'u' :: a :: b :: c :: d :: s =>
    (codePoint? [a, b, c, d]).bind fun ch => withChar ch (readLongBasic false s)
  | '\\' :: 'U' :: a :: b :: c :: d :: e :: f :: g :: h :: s =>
    (codePoint? [a, b, c, d, e, f, g, h]).bind fun ch => withChar ch (readLongBasic false s)
  | '\\' :: s =>
    if endsLine s then readLongBasic true s
    else
      match s with
      | [] => none
      | c :: t => (escaped? c).bind fun ch => withChar ch (readLongBasic false t)
  | '\r' :: '\n' :: s =>
    if joining then readLongBasic true s else withChar '\n' (readLongBasic false s)
  | c :: s =>
    if c = '\n' || isSpace c then
      if joining then readLongBasic true s else withChar c (readLongBasic false s)
    else if isPlain c then withChar c (readLongBasic false s)
    else none

/-- The rest of a literal string over several lines. -/
def readLongLiteral : List Char → Read (List Char)
  | [] => none
  | '\'' :: '\'' :: '\'' :: '\'' :: '\'' :: s => some (['\'', '\''], s)
  | '\'' :: '\'' :: '\'' :: '\'' :: s => some (['\''], s)
  | '\'' :: '\'' :: '\'' :: s => some ([], s)
  | '\r' :: '\n' :: s => withChar '\n' (readLongLiteral s)
  | c :: s => if c = '\n' || isPlain c then withChar c (readLongLiteral s) else none

/-- A text without a line end at its start. -/
def dropLineEnd : List Char → List Char
  | '\n' :: s => s
  | '\r' :: '\n' :: s => s
  | s => s

/-- A string of any form. -/
def readString : List Char → Read (List Char)
  | '"' :: '"' :: '"' :: s => readLongBasic false (dropLineEnd s)
  | '"' :: s => readBasic s
  | '\'' :: '\'' :: '\'' :: s => readLongLiteral (dropLineEnd s)
  | '\'' :: s => readLiteral s
  | _ => none

/-- A key without dots: bare, or a string on one line. -/
def readSimpleKey : List Char → Read (List Char)
  | '"' :: s => readBasic s
  | '\'' :: s => readLiteral s
  | s =>
    if s.takeWhile isBareKeyChar = [] then none
    else some (s.takeWhile isBareKeyChar, s.dropWhile isBareKeyChar)

/-- A key of at most `most` parts with dots between them; blanks may stand around the dots. -/
def readParts : (most : Nat) → List Char → Read (List (List Char))
  | 0, _ => none
  | most + 1, s =>
    (readSimpleKey (s.dropWhile isSpace)).bind fun part =>
      match part.2.dropWhile isSpace with
      | '.' :: t => (readParts most t).map fun later => (part.1 :: later.1, later.2)
      | t => some ([part.1], t)

/-- How deep values may be nested, and how many parts a key may have. -/
def nestingLimit : Nat := 79

/-- A key with its dots. -/
def readKey (s : List Char) : Read (List (List Char)) :=
  readParts nestingLimit s

/-- The text behind a comment, if there is one and it is sound. -/
def skipComment : List Char → Option (List Char)
  | '#' :: s => some (s.dropWhile isPlain)
  | s => some s

/-- The text behind the end of a line, which may hold blanks and a comment. -/
def endOfLine (s : List Char) : Option (List Char) :=
  (skipComment (s.dropWhile isSpace)).bind fun t =>
    match t with
    | [] => some []
    | '\n' :: u => some u
    | '\r' :: '\n' :: u => some u
    | _ => none

end GaussMarkup.Toml
