import GaussMarkup.Text.CodeRanges
import GaussMarkup.Text.Mark
import GaussMarkup.Text.Unprintable

/-!
# Quoted text

A text between double quotes that fits on one line and shows every character: quotes, backslashes
and the usual controls have short escapes, and whatever has no visible form of its own is written
by its code point.
-/

namespace GaussMarkup

/-- The digits of a number in base 16, lower case. -/
def hexDigits (n : Nat) : List Char :=
  Nat.toDigits 16 n

/-- Whether a character is written by its code point inside quotes. -/
def needsCodePoint (c : Char) : Bool :=
  if c.toNat < 0x7F then c.toNat < 0x20
  else inRanges c.toNat extendingRanges || inRanges c.toNat unprintableRanges

def quoteChar (c : Char) : List Char :=
  if c = '\x00' then ['\\', '0']
  else if c = '\t' then ['\\', 't']
  else if c = '\r' then ['\\', 'r']
  else if c = '\n' then ['\\', 'n']
  else if c = '"' then ['\\', '"']
  else if c = '\\' then ['\\', '\\']
  else if needsCodePoint c then ['\\', 'u', '{'] ++ hexDigits c.toNat ++ ['}']
  else [c]

/-- A text in double quotes. -/
def quote (s : List Char) : List Char :=
  '"' :: s.flatMap quoteChar ++ ['"']

end GaussMarkup
