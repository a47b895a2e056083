import GaussMarkup.Decimal.Binary
import GaussMarkup.Lexer.Step
import GaussMarkup.Source.Evidence
import GaussMarkup.Source.Prepare

/-!
# Languages

A language has a name and other ways to refer to it, may have an opinion on how likely a text is
written in it, and can prepare and lex a text. Plain text is a language too: it says of every text
that it might be its own, if with little confidence.
-/

namespace GaussMarkup

/-- How likely a text is written in a language; what lies outside 0 and 1 counts as the bound. -/
abbrev Score := Binary

def Score.ofDecimal (negative : Bool) (digits : Nat) (exponent : Int) : Score :=
  binary64.convert binary32 (binary64.ofDecimal negative digits exponent)

structure Language where
  name : List Char
  /-- Short names. -/
  aliases : List (List Char) := []
  /-- Glob patterns for the names of its files. -/
  filenames : List (List Char) := []
  mimetypes : List (List Char) := []
  /-- The opinion on a text, if there is one. -/
  score? : List Char → Option Score := fun _ => none
  /-- Brings a text into shape before it is lexed. -/
  prepare : List Char → List Char := id
  /-- The lexemes of a prepared text. -/
  lexemes : List Char → List Lexeme

namespace Language

/-- The tokens of a text after it was prepared. -/
def tokens (l : Language) (s : List Char) : List Token :=
  locate 0 (l.lexemes (l.prepare s))

/-- GAUSS, with the way in which its texts are prepared. -/
def gauss (options : SourceOptions) : Language where
  name := "GAUSS".toList
  aliases := ["gauss".toList]
  filenames := ["*.e".toList, "*.gss".toList, "*.src".toList]
  mimetypes := ["text/gauss".toList]
  score? s := if looksLikeGauss s then some (Score.ofDecimal false 2 (-1)) else none
  prepare := options.prepare
  lexemes := GaussMarkup.lexemes

/-- Plain text, which is one lexeme. -/
def plainText : Language where
  name := "Text only".toList
  aliases := ["text".toList]
  filenames := ["*.txt".toList]
  mimetypes := ["text/plain".toList]
  score? _ := some (Score.ofDecimal false 1 (-2))
  lexemes := lexemeOf .text

end Language

end GaussMarkup
