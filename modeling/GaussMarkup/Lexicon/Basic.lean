import GaussMarkup.Lexicon.Words
import GaussMarkup.Text.Lowercase

/-!
# Which list a word is on

A word is looked up by its full lower-case form, in the order in which the lexer tries the lists:
constants, reserved words, declaration words, library procedures.
-/

namespace GaussMarkup

inductive WordClass
  | literal
  | keyword
  | declaration
  | builtin
  deriving DecidableEq, Repr, Inhabited

namespace WordClass

/-- The lists in the order in which a word is looked up. -/
def all : List WordClass :=
  [literal, keyword, declaration, builtin]

def title : WordClass → String
  | literal => "literal"
  | keyword => "keyword"
  | declaration => "declaration"
  | builtin => "builtin"

def words : WordClass → List String
  | literal => literalWords
  | keyword => keywordWords
  | declaration => declarationWords
  | builtin => builtinWords

/-- Whether a word is on a list, in any case. -/
def holds (wc : WordClass) (word : List Char) : Bool :=
  wc.words.contains (String.ofList (lowercase word))

end WordClass

/-- The first list that a word is on; an ordinary name is on none. -/
def classifyWord? (word : List Char) : Option WordClass :=
  WordClass.all.find? (·.holds word)

end GaussMarkup
