import GaussMarkup.Text.Order
import GaussMarkup.Text.Utf8

/-!
# A pattern for a list of words

The pattern that matches any of a list of words is a group of alternatives. An alternation takes
the first alternative that fits, so longer words come first and a word never hides one that it
begins. Among words of one size in bytes the order of texts decides, and each word is written once.
-/

namespace GaussMarkup

/-- Whether a character has a meaning of its own in a pattern. -/
def isPatternSign (c : Char) : Bool :=
  ['\\', '.', '+', '*', '?', '(', ')', '|', '[', ']', '{', '}', '^', '$', '#', '&', '-',
    '~'].contains c

/-- A word as a pattern for itself. -/
def escapeWord (word : List Char) : List Char :=
  word.flatMap fun c => if isPatternSign c then ['\\', c] else [c]

/-- Whether `s` is tried before `t`: it is longer, or as long and not behind it in order. -/
def triedBefore (s t : List Char) : Bool :=
  byteSize t < byteSize s || (byteSize s == byteSize t && textLe s t)

/-- The distinct words of a list, longest first. -/
def longestFirst (words : List (List Char)) : List (List Char) :=
  (words.mergeSort triedBefore).eraseReps

/-- The pattern for any of `words`, followed by `suffix`. -/
def wordsPattern (words : List (List Char)) (suffix : List Char) : List Char :=
  "(?:".toList ++ List.intercalate ['|'] ((longestFirst words).map escapeWord) ++ ')' :: suffix

end GaussMarkup
