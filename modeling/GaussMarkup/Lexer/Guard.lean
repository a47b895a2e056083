import GaussMarkup.Text.CharClass

/-!
# Guards

Conditions on a match that look at its surroundings: the character in front of it, the one behind
it, or how it ends.
-/

namespace GaussMarkup

/-- A condition on a match in its surroundings. -/
inductive Guard
  /-- The character behind the match is not this one. -/
  | notFollowedBy (c : Char)
  /-- The character in front of the match is this one. -/
  | precededBy (c : Char)
  /-- The match, without a final line feed, does not end in a backslash. -/
  | unescapedFinalNewline
  /-- A match that begins with a numeral does not continue a word. -/
  | boundaryBeforeDigit
  deriving DecidableEq, Repr

/-- A text without the line feed at its end. -/
def dropFinalNewline (s : List Char) : List Char :=
  if s.getLast? = some '\n' then s.dropLast else s

/-- Whether a guard lets the match `taken` pass between `before` and `rest`. -/
def Guard.admits (guard : Guard) (before : Option Char) (taken rest : List Char) : Bool :=
  match guard with
  | .notFollowedBy c => rest.head? != some c
  | .precededBy c => before == some c
  | .unescapedFinalNewline => (dropFinalNewline taken).getLast? != some '\\'
  | .boundaryBeforeDigit =>
    match taken.head?, before with
    | some first, some c => !(isNumeral first && (isAlphanumeric c || c == '_'))
    | _, _ => true

def atLineStart (before : Option Char) : Bool :=
  before == none || before == some '\n'

end GaussMarkup
