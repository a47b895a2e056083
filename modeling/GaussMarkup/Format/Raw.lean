import GaussMarkup.Text.Quoted
import GaussMarkup.Token.Basic

/-!
# One line per token

Each line names the kind of a token and quotes its text, with a tab between the two.
-/

namespace GaussMarkup

def rawLine (l : Lexeme) : List Char :=
  "Token.".toList ++ l.kind.title.toList ++ '\t' :: quote l.text ++ ['\n']

def rawDump (ls : List Lexeme) : List Char :=
  ls.flatMap rawLine

end GaussMarkup
