import GaussMarkup.Decimal.Shortest
import GaussMarkup.Settings.Basic
import GaussMarkup.Settings.Tree
import GaussMarkup.Text.Quoted

/-!
# Decoding settings

A tree of settings is decoded section by section and field by field. Single values are converted
where that makes sense: numbers and words to truth values, words and fractions to whole numbers,
everything with a text to that text. Fields that nobody asks for are ignored. A section may also be
an array, with its fields by position.
-/

namespace GaussMarkup

/-- What a single value was wanted as. -/
inductive Wanted
  | boolean
  | integer
  | unsigned
  | string
  deriving DecidableEq, Repr

/-- What messages call it. -/
def Wanted.title : Wanted → String
  | boolean => "a boolean"
  | integer => "an integer"
  | unsigned => "an unsigned 64 bit or less integer"
  | string => "a string"

inductive Section
  | lexer
  | html
  | signature
  | roles
  deriving DecidableEq, Repr

namespace Section

def key : Section → String
  | lexer => "lexer"
  | html => "html"
  | signature => "signature"
  | roles => "roles"

/-- What messages call a section. -/
def title : Section → String
  | lexer => "struct LexerOptions"
  | html => "struct HtmlConfig"
  | signature => "struct SignatureConfig"
  | roles => "struct RolesConfig"

/-- What messages say about the fields of a section. -/
def size : Section → String
  | lexer => "4 elements"
  | html => "2 elements"
  | signature => "1 element"
  | roles => "2 elements"

end Section

inductive SettingsError
  /-- A file of settings is no TOML. -/
  | notToml
  /-- A file of settings is a single value. -/
  | noTable (found : Setting) (place : List Char)
  /-- The key of an assignment is no path. -/
  | badKey
  /-- A file of settings is missing. -/
  | missingFile (name : List Char)
  /-- A file of settings is not UTF-8. -/
  | notUtf8
  /-- A value cannot be converted. -/
  | wrongType (found : Setting) (wanted : Wanted) (key : List Char)
  /-- A section is a single value. -/
  | noSection (found : Scalar) (wanted : Section)
  /-- A field without a default is missing from a table. -/
  | missingField (name : String)
  /-- A field without a default is missing from an array. -/
  | tooShort (position : Nat) (wanted : Section)
  deriving Repr

/-- A number in positional form; a whole one has a point and a zero. -/
def pointedText (x : Binary) : List Char :=
  let text := binary64.text x
  match x with
  | .finite .. => if text.contains '.' then text else text ++ ".0".toList
  | _ => text

def backquoted (s : List Char) : List Char :=
  '\x60' :: s ++ ['\x60']

/-- What messages say about a value that cannot be converted. -/
def Setting.describe : Setting → List Char
  | .table .. => "map".toList
  | .array .. => "sequence".toList
  | .scalar _ .nil => "unit value".toList
  | .scalar _ (.boolean b) => "boolean ".toList ++ backquoted (toString b).toList
  | .scalar _ (.integer n) => "64-bit integer ".toList ++ backquoted (toString n).toList
  | .scalar _ (.float x) => "floating point ".toList ++ backquoted (binary64.text x)
  | .scalar _ (.string s) => "string ".toList ++ quote s

/-- What messages say about a single value that stands for a section. -/
def Scalar.describe : Scalar → List Char
  | .nil => "unit value".toList
  | .boolean b => "boolean ".toList ++ backquoted (toString b).toList
  | .integer n => "integer ".toList ++ backquoted (toString n).toList
  | .float x => "floating point ".toList ++ backquoted (pointedText x)
  | .string s => "string ".toList ++ quote s

/-- The message for an error. What makes a document or a key unreadable is not told. Where a file is
a single value, both the value and the whole file are placed. -/
def SettingsError.message : SettingsError → List Char
  | notToml => []
  | noTable found place =>
    "invalid type: ".toList ++ found.describe ++ ", expected a map in ".toList ++ place ++
      " in ".toList ++ place
  | badKey => []
  | missingFile name => "configuration file \"".toList ++ name ++ "\" not found".toList
  | notUtf8 => "stream did not contain valid UTF-8".toList
  | wrongType found wanted key =>
    let place := match found.origin with
      | none => []
      | some file => " in ".toList ++ file
    "invalid type: ".toList ++ found.describe ++ ", expected ".toList ++ wanted.title.toList ++
      " for key ".toList ++ backquoted key ++ place
  | noSection found wanted =>
    "invalid type: ".toList ++ found.describe ++ ", expected ".toList ++ wanted.title.toList
  | missingField name => "missing field ".toList ++ backquoted name.toList
  | tooShort position wanted =>
    "invalid length ".toList ++ (toString position).toList ++ ", expected ".toList ++
      wanted.title.toList ++ " with ".toList ++ wanted.size.toList

/-- A conversion of a setting; where it fails it says what it found and what it wanted. -/
abbrev Conversion (α : Type) := Setting → Except (Setting × Wanted) α

/-- The truth value that a word means. -/
def wordTruth? (s : List Char) : Option Bool :=
  let word := lowercase s
  if ["true", "on", "yes"].any (·.toList == word) then some true
  else if ["false", "off", "no"].any (·.toList == word) then some false
  else none

/-- A setting as a truth value. A number is true if it is not zero. -/
def Setting.toBoolean : Conversion Bool
  | .scalar _ (.boolean b) => .ok b
  | .scalar _ (.integer n) => .ok (n != 0)
  | .scalar _ (.float x) => .ok !x.isZero
  | .scalar origin (.string s) =>
    if s = ['1'] then .ok true
    else if s = ['0'] then .ok false
    else
      match wordTruth? s with
      | some b => .ok b
      | none => .error (.scalar origin (.string (lowercase s)), .boolean)
  | s => .error (s, .boolean)

def maxUnsigned : Nat := UInt64.size - 1

/-- The number of 64 bits that digits spell, perhaps behind a plus. -/
def unsigned? (s : List Char) : Option Nat :=
  let digits := if s.head? = some '+' then s.drop 1 else s
  if digits ≠ [] ∧ digits.all Char.isDigit then
    let n := digits.foldl (fun n c => n * 10 + (c.toNat - '0'.toNat)) 0
    if n ≤ maxUnsigned then some n else none
  else none

/-- A setting as a number of 64 bits. A fraction is rounded, a half upwards. -/
def Setting.toUnsigned : Conversion Nat
  | .scalar _ (.boolean b) => .ok b.toNat
  | .scalar origin (.integer n) =>
    if 0 ≤ n then .ok n.toNat else .error (.scalar origin (.integer n), .unsigned)
  | .scalar _ (.float x) => .ok (x.toNatClamped binary64 maxUnsigned)
  | .scalar origin (.string s) =>
    match (wordTruth? s).map Bool.toNat |>.or (unsigned? s) with
    | some n => .ok n
    | none => .error (.scalar origin (.string s), .integer)
  | s => .error (s, .integer)

def Setting.toText : Conversion (List Char)
  | .scalar _ (.boolean b) => .ok (toString b).toList
  | .scalar _ (.integer n) => .ok (toString n).toList
  | .scalar _ (.float x) => .ok (binary64.text x)
  | .scalar _ (.string s) => .ok s
  | s => .error (s, .string)

/-- A setting as a text, or as none. -/
def Setting.toText? : Conversion (Option (List Char))
  | .scalar _ .nil => .ok none
  | s => (toText s).map some

/-- A field of a section: its name, and its position if the section is an array. -/
structure FieldKey where
  name : String
  position : Nat

/-- The setting of a field, with its whole key. -/
def Section.field? (part : Section) (field : FieldKey) :
    Setting → Except SettingsError (Option (List Char × Setting))
  | .table _ fields =>
    .ok <| (fields.lookup field.name.toList).map fun s =>
      (part.key.toList ++ '.' :: field.name.toList, s)
  | .array _ items =>
    .ok <| items[field.position]?.map fun s =>
      (part.key.toList ++ '[' :: (toString field.position).toList ++ [']'], s)
  | .scalar _ value => .error (.noSection value part)

/-- A field with a default. -/
def Section.decodeOr {α : Type} (part : Section) (here : Setting) (name : String) (position : Nat)
    (convert : Conversion α) (default : α) : Except SettingsError α :=
  match part.field? ⟨name, position⟩ here with
  | .error e => .error e
  | .ok none => .ok default
  | .ok (some (key, s)) => (convert s).mapError fun (found, wanted) => .wrongType found wanted key

/-- A field without a default, which is the first of its section. -/
def Section.decodeFirst {α : Type} (part : Section) (here : Setting) (name : String)
    (convert : Conversion α) : Except SettingsError α :=
  match part.field? ⟨name, 0⟩ here with
  | .error e => .error e
  | .ok none =>
    match here with
    | .array .. => .error (.tooShort 0 part)
    | _ => .error (.missingField name)
  | .ok (some (key, s)) => (convert s).mapError fun (found, wanted) => .wrongType found wanted key

/-- The section of a tree. -/
def Section.of (part : Section) (tree : Setting) : Except SettingsError Setting :=
  match tree.field? part.key.toList with
  | some s => .ok s
  | none => .error (.missingField part.key)

/-- The settings that a tree holds. -/
def Settings.decode (tree : Setting) : Except SettingsError Settings := do
  let lexer ← Section.lexer.of tree
  let stripNewlines ← Section.lexer.decodeOr lexer "strip_newlines" 0 Setting.toBoolean false
  let stripAll ← Section.lexer.decodeOr lexer "strip_all" 1 Setting.toBoolean false
  let ensureNewline ← Section.lexer.decodeOr lexer "ensure_newline" 2 Setting.toBoolean false
  let tabSize ← Section.lexer.decodeOr lexer "tab_size" 3 Setting.toUnsigned 0
  let html ← Section.html.of tree
  let blockClass ← Section.html.decodeFirst html "css_class" Setting.toText
  let classStem ← Section.html.decodeOr html "class_prefix" 1 Setting.toText []
  let signature ← Section.signature.of tree
  let separator ← Section.signature.decodeFirst signature "separator" Setting.toText
  let roles ← Section.roles.of tree
  let menuArrow ← Section.roles.decodeFirst roles "menu_arrow" Setting.toText
  let defaultRole ← Section.roles.decodeOr roles "default_role" 1 Setting.toText? none
  return {
    source := { stripNewlines, stripAll, ensureNewline, tabSize }
    html := { blockClass, classStem }
    separator
    roles := { menuArrow, defaultRole } }

end GaussMarkup
