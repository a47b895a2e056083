import GaussMarkup.Signature.Basic
import GaussMarkup.Text.Trim

/-!
# Reading a signature

A signature is written `{ a, b } = f(x[, y])`. Returned values stand in front of the first equals
sign outside brackets, with or without braces; a call has its parameters between its first
parenthesis and its last. Lists are cut at commas and square brackets, and square brackets open and
close optional groups; empty pieces mean nothing.
-/

namespace GaussMarkup

/-- Splits a text at the first equals sign outside brackets, `depth` brackets being open. Brackets
are only counted; a closing one without an opening one is an error. The count has no bound; one of
32 bits with a sign is the same as long as fewer than `2 ^ 31` brackets are open. -/
def splitAssignmentFrom (depth : Nat) :
    List Char → Except SignatureError (Option (List Char × List Char))
  | [] => .ok none
  | c :: s =>
    if c = '(' ∨ c = '[' ∨ c = '{' then behind c (splitAssignmentFrom (depth + 1) s)
    else if c = ')' ∨ c = ']' ∨ c = '}' then
      match depth with
      | 0 => .error (.unbalanced c)
      | depth + 1 => behind c (splitAssignmentFrom depth s)
    else if c = '=' ∧ depth = 0 then .ok (some ([], s))
    else behind c (splitAssignmentFrom depth s)
where
  /-- The split of a text with one more character in front. -/
  behind (c : Char) (r : Except SignatureError (Option (List Char × List Char))) :
      Except SignatureError (Option (List Char × List Char)) :=
    r.map (·.map fun x => (c :: x.1, x.2))

def splitAssignment (s : List Char) : Except SignatureError (Option (List Char × List Char)) :=
  splitAssignmentFrom 0 s

/-- The element that a piece between two delimiters is, if it is not blank. -/
def elementOf (piece : List Char) : List Item :=
  if trim piece = [] then [] else [.element { text := trim piece }]

/-- The state of reading a list: the piece in hand, reversed, the items of the innermost open group,
and those of the groups around it, innermost first. -/
structure ListReader where
  piece : List Char := []
  level : List Item := []
  outer : List (List Item) := []

/-- The items of the innermost group together with the piece in hand. -/
def ListReader.flushed (r : ListReader) : List Item :=
  r.level ++ elementOf r.piece.reverse

/-- Reads the rest of a list. -/
def readItemsFrom (r : ListReader) : List Char → Except SignatureError (List Item)
  | [] => if r.outer = [] then .ok r.flushed else .error (.unbalanced '[')
  | c :: s =>
    if c = '[' then readItemsFrom { outer := r.flushed :: r.outer } s
    else if c = ']' then
      match r.outer with
      | [] => .error (.unbalanced ']')
      | parent :: outer =>
        readItemsFrom { level := parent ++ [.optional r.flushed], outer := outer } s
    else if c = ',' then readItemsFrom { r with piece := [], level := r.flushed } s
    else readItemsFrom { r with piece := c :: r.piece } s

def readItems (s : List Char) : Except SignatureError (List Item) :=
  readItemsFrom {} s

/-- A text without a pair of braces around it. -/
def dropBraces (s : List Char) : List Char :=
  match s with
  | '{' :: t => if t.getLast? = some '}' then t.dropLast else s
  | _ => s

/-- The parameters behind the first parenthesis of a call, up to the last one. -/
def readParameters (s : List Char) : Except SignatureError ItemList :=
  let inner := dropEndWhile isBlank s
  if inner.getLast? = some ')' then (readItems inner.dropLast).map ({ items := · })
  else .error (.unbalanced '(')

/-- Reads a call: a name, and parameters if there is a parenthesis. -/
def readCall (returns : Option ItemList) (s : List Char) : Except SignatureError Signature := do
  let name := s.takeWhile (· != '(')
  let parameters ← match s.dropWhile (· != '(') with
    | [] => .ok none
    | _ :: inner => (readParameters inner).map some
  if trim name = [] then .error .missingName
  else .ok { returns := returns, name := trim name, parameters := parameters }

def Signature.parse (s : List Char) : Except SignatureError Signature := do
  match ← splitAssignment (trim s) with
  | none => readCall none (trim s)
  | some (left, right) =>
    let items ← readItems (dropBraces (trim left))
    readCall (some { items := items }) (trim right)

end GaussMarkup
