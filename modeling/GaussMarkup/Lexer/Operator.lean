import GaussMarkup.Lexer.Rule

/-!
# Operators and punctuation

Operators may carry a dot, which makes them work element by element, and some a dollar sign, which
makes them work on strings. The word operators carry the same marks.
-/

namespace GaussMarkup

/-- The comparison operators that are words; they may carry a dot, a dollar sign and a dot. -/
def comparisonWords : List String :=
  ["ne", "ge", "le", "gt", "lt"]

/-- The logical operators that are words; they may carry a dot. -/
def logicalWords : List String :=
  ["and", "xor", "or", "not", "eqv", "eq"]

/-- A whole word of a list, in any case. -/
def cutListed? (words : List String) (s : List Char) : Option Cut :=
  if words.contains (String.ofList ((s.takeWhile isWordChar).map fold)) then
    some (s.takeWhile isWordChar, s.dropWhile isWordChar)
  else none

def cutComparisonWord? (s : List Char) : Option Cut :=
  let dot := cutOptional '.' s
  let dollar := cutOptional '$' dot.2
  let dot' := cutOptional '.' dollar.2
  (cutListed? comparisonWords dot'.2).map fun x => (dot.1 ++ dollar.1 ++ dot'.1 ++ x.1, x.2)

def cutLogicalWord? (s : List Char) : Option Cut :=
  let dot := cutOptional '.' s
  (cutListed? logicalWords dot.2).map fun x => (dot.1 ++ x.1, x.2)

def cutComparisonSign? : List Char → Option Cut
  | c :: '=' :: s =>
    if c = '~' ∨ c = '/' ∨ c = '=' ∨ c = '!' ∨ c = '<' ∨ c = '>' then some ([c, '='], s) else none
  | c :: s => if c = '<' ∨ c = '>' then some ([c], s) else none
  | [] => none

/-- A comparison sign with its marks. -/
def cutComparison? (s : List Char) : Option Cut :=
  let dot := cutOptional '.' s
  let dollar := cutOptional '$' dot.2
  (cutComparisonSign? dollar.2).map fun x => (dot.1 ++ dollar.1 ++ x.1, x.2)

/-- Signs that may carry a dollar sign. -/
def isStringSign (c : Char) : Bool :=
  c == '|' || c == '+' || c == '-' || c == '~'

/-- Signs that may carry a dot. -/
def isDottedSign (c : Char) : Bool :=
  c == '/' || c == '^' || c == '\''

def isLoneSign (c : Char) : Bool :=
  c == '%' || c == '!' || c == '&' || c == '$'

/-- A concatenation or sum, with its mark. -/
def cutStringSign? (s : List Char) : Option Cut :=
  let dollar := cutOptional '$' s
  (cutOne? isStringSign dollar.2).map fun x => (dollar.1 ++ x.1, x.2)

/-- A product sign, with a dot on either side. -/
def cutProduct? (s : List Char) : Option Cut :=
  let dot := cutOptional '.' s
  (cutMark? ['*'] dot.2).map fun x =>
    let dot' := cutOptional '.' x.2
    (dot.1 ++ x.1 ++ dot'.1, dot'.2)

/-- A quotient, power or transposition, with its mark. -/
def cutDotted? (s : List Char) : Option Cut :=
  let dot := cutOptional '.' s
  (cutOne? isDottedSign dot.2).map fun x => (dot.1 ++ x.1, x.2)

def isPunctuation (c : Char) : Bool :=
  ['[', ']', '(', ')', '{', '}', '.', ',', '=', '?', ':', ';'].contains c

theorem joins_cutListed? (words : List String) : Joins (cutListed? words) := by
  intro s c h
  unfold cutListed? at h
  split at h
  · obtain rfl := Option.some.inj h
    exact List.takeWhile_append_dropWhile
  · simp at h

/-- A mark in front of what a scanner takes is no loss. -/
theorem joins_optional {c : Char} {scan : List Char → Option Cut} (h : Joins scan) :
    Joins fun s => (scan (cutOptional c s).2).map fun x => ((cutOptional c s).1 ++ x.1, x.2) := by
  intro s d hd
  obtain ⟨x, hx, rfl⟩ := Option.map_eq_some_iff.1 hd
  simp [h hx]

theorem joins_cutComparisonWord? : Joins cutComparisonWord? := by
  intro s c h
  obtain ⟨x, hx, rfl⟩ := Option.map_eq_some_iff.1 h
  simp [joins_cutListed? _ hx]

theorem joins_cutComparisonSign? : Joins cutComparisonSign? := by
  intro s c h
  unfold cutComparisonSign? at h
  split at h
  · split at h
    · obtain rfl := Option.some.inj h; rfl
    · simp at h
  · split at h
    · obtain rfl := Option.some.inj h; rfl
    · simp at h
  · simp at h

theorem joins_cutComparison? : Joins cutComparison? := by
  intro s c h
  obtain ⟨x, hx, rfl⟩ := Option.map_eq_some_iff.1 h
  simp [joins_cutComparisonSign? hx]

theorem joins_cutProduct? : Joins cutProduct? := by
  intro s c h
  obtain ⟨x, hx, rfl⟩ := Option.map_eq_some_iff.1 h
  simp [joins_cutMark? _ hx]

namespace Rule

/-- A star and slash that close no comment. -/
def strayCommentEnd : Rule :=
  one .error .stay (cutMark? ['*', '/']) (joins_cutMark? _)

def comparisonWord : Rule :=
  one .operatorWord .stay cutComparisonWord? joins_cutComparisonWord?

def logicalWord : Rule :=
  one .operatorWord .stay cutLogicalWord? (joins_optional (joins_cutListed? _))

def comparison : Rule :=
  one .operator .stay cutComparison? joins_cutComparison?

/-- A concatenation, sum or difference. -/
def stringSign : Rule :=
  one .operator .stay cutStringSign? (joins_optional (joins_cutOne? _))

def product : Rule :=
  one .operator .stay cutProduct? joins_cutProduct?

/-- A quotient, power or transposition. -/
def dottedSign : Rule :=
  one .operator .stay cutDotted? (joins_optional (joins_cutOne? _))

/-- Any other sign. -/
def loneSign : Rule :=
  one .operator .stay (cutOne? isLoneSign) (joins_cutOne? _)

def punctuation : Rule :=
  one .punctuation .stay (cutOne? isPunctuation) (joins_cutOne? _)

end Rule

end GaussMarkup
