import GaussMarkup.Text.CodeRanges
import GaussMarkup.Text.Age
import GaussMarkup.Text.Alphabetic
import GaussMarkup.Text.Mark
import GaussMarkup.Text.Numeral

/-!
# Character classes

The classes that the lexer, the signature reader and the menu role ask about: blanks, digits,
numerals, alphanumeric characters and the characters of a word. ASCII is decided without a table.

A word character is a letter, a mark, a decimal digit, a connector such as the underscore, or a
joiner; an alphanumeric one is a letter or any numeral. Neither class contains the other: a
combining accent is only a word character and a superscript two is only alphanumeric.

Word characters and decimal digits are those of Unicode 16; letters and numerals count as
alphanumeric as soon as Unicode 17 has them.
-/

namespace GaussMarkup

/-- White space, line ends included. -/
def isBlank (c : Char) : Bool :=
  let n := c.toNat
  (9 ≤ n && n ≤ 13) || n == 0x20 || n == 0x85 || n == 0xA0 || n == 0x1680 ||
    (0x2000 ≤ n && n ≤ 0x200A) || n == 0x2028 || n == 0x2029 || n == 0x202F || n == 0x205F ||
    n == 0x3000

/-- A decimal digit of any script. -/
def isDigit (c : Char) : Bool :=
  if c.toNat < 0x80 then c.isDigit else inRanges c.toNat digitRanges

/-- A numeral of any kind: a digit, a letter numeral, a fraction, a superscript. -/
def isNumeral (c : Char) : Bool :=
  if c.toNat < 0x80 then c.isDigit else inRanges c.toNat numeralRanges

def isAlphanumeric (c : Char) : Bool :=
  if c.toNat < 0x80 then c.isAlphanum
  else inRanges c.toNat alphabeticRanges || inRanges c.toNat numeralRanges

/-- Connectors and joiners outside ASCII. -/
def isJoiner (c : Char) : Bool :=
  let n := c.toNat
  n == 0x200C || n == 0x200D || n == 0x203F || n == 0x2040 || n == 0x2054 || n == 0xFE33 ||
    n == 0xFE34 || n == 0xFE4D || n == 0xFE4E || n == 0xFE4F || n == 0xFF3F

/-- A letter or mark outside ASCII that may stand in a word. -/
def isWordLetter (c : Char) : Bool :=
  (inRanges c.toNat alphabeticRanges || inRanges c.toNat markRanges) && !inRanges c.toNat lateRanges

/-- A character that continues a word. -/
def isWordChar (c : Char) : Bool :=
  if c.toNat < 0x80 then c.isAlphanum || c == '_'
  else isWordLetter c || inRanges c.toNat digitRanges || isJoiner c

/-- A hexadecimal digit; these are ASCII only. -/
def isHexDigit (c : Char) : Bool :=
  c.isDigit || ('a' ≤ c && c ≤ 'f') || ('A' ≤ c && c ≤ 'F')

def isOctalDigit (c : Char) : Bool :=
  '0' ≤ c && c ≤ '7'

end GaussMarkup
