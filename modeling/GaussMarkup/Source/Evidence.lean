import GaussMarkup.Text.CharClass

/-!
# Signs of GAUSS

A text looks like GAUSS if some line ends a procedure or loop, with `endp` or `endfor` and a
semicolon, or opens a procedure with `proc` and a space. Here a line may begin with blank lines, and
case matters.
-/

namespace GaussMarkup

/-- What is left of `s` behind `word`. -/
def behindWord? (word s : List Char) : Option (List Char) :=
  if word.isPrefixOf s then some (s.drop word.length) else none

/-- The text from each line feed on, without it. -/
def laterLines : List Char → List (List Char)
  | [] => []
  | c :: s => if c = '\n' then s :: laterLines s else laterLines s

/-- The text from the start of each line on. -/
def lineStarts (s : List Char) : List (List Char) :=
  s :: laterLines s

/-- Whether a line end of a procedure or loop is in front. -/
def startsWithEnd (word : String) (s : List Char) : Bool :=
  (behindWord? word.toList s).any fun t => (t.dropWhile isBlank).head? == some ';'

/-- Whether a line shows that the text is GAUSS. -/
def isEvidence (line : List Char) : Bool :=
  let s := line.dropWhile isBlank
  startsWithEnd "endp" s || startsWithEnd "endfor" s || (behindWord? "proc ".toList s).isSome

/-- Whether some line shows that a text is GAUSS. -/
def looksLikeGauss (s : List Char) : Bool :=
  (lineStarts s).any isEvidence

end GaussMarkup
