import GaussMarkup.Text.Quoted
import GaussMarkup.Token.Basic

/-!
# Tokens as JSON

The tokens as an array of objects, two columns deeper at each level. Strings escape quotes,
backslashes and control characters only.
-/

namespace GaussMarkup

def jsonChar (c : Char) : List Char :=
  if c = '"' then ['\\', '"']
  else if c = '\\' then ['\\', '\\']
  else if c = '\x08' then ['\\', 'b']
  else if c = '\x0c' then ['\\', 'f']
  else if c = '\n' then ['\\', 'n']
  else if c = '\r' then ['\\', 'r']
  else if c = '\t' then ['\\', 't']
  else if c.toNat < 0x20 then
    "\\u00".toList ++ List.replicate (2 - (hexDigits c.toNat).length) '0' ++ hexDigits c.toNat
  else [c]

def jsonString (s : List Char) : List Char :=
  '"' :: s.flatMap jsonChar ++ ['"']

def jsonNat (n : Nat) : List Char :=
  Nat.toDigits 10 n

/-- What the array says of a token: its kind, its text, and the bytes between which it stands. -/
structure JsonEntry where
  kind : Kind
  text : List Char
  start : Nat
  stop : Nat
  deriving DecidableEq, Repr

def Token.jsonEntry (t : Token) : JsonEntry :=
  ⟨t.kind, t.text, t.start, t.stop⟩

def jsonObject (e : JsonEntry) : List Char :=
  "  \x7b\n    \"kind\": ".toList ++ jsonString e.kind.title.toList ++
    ",\n    \"text\": ".toList ++ jsonString e.text ++
    ",\n    \"span\": \x7b\n      \"start\": ".toList ++ jsonNat e.start ++
    ",\n      \"end\": ".toList ++ jsonNat e.stop ++ "\n    \x7d\n  \x7d".toList

def jsonDump (es : List JsonEntry) : List Char :=
  if es = [] then "[]".toList
  else "[\n".toList ++ List.intercalate ",\n".toList (es.map jsonObject) ++ "\n]".toList

end GaussMarkup
