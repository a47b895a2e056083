/-!
# The name of a file in a path

A path is cut at its slashes. Empty parts and parts that are a single dot mean nothing, so the last
other part is the name, unless it leads upwards.
-/

namespace GaussMarkup

/-- The parts of a path between its slashes; `part` is what stands in front of it, reversed. -/
def splitPathFrom (part : List Char) : List Char → List (List Char)
  | [] => [part.reverse]
  | c :: s => if c = '/' then part.reverse :: splitPathFrom [] s else splitPathFrom (c :: part) s

/-- The parts of a path that name something. -/
def pathParts (path : List Char) : List (List Char) :=
  (splitPathFrom [] path).filter fun part => part != [] && part != ['.']

/-- The name of the file at the end of a path, if the path ends in one. -/
def fileName? (path : List Char) : Option (List Char) :=
  (pathParts path).getLast?.filter (· != ['.', '.'])

end GaussMarkup
