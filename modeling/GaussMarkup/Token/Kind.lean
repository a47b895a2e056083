/-!
# Kinds of lexemes

The kinds form a small hierarchy: a directive is a comment, a label is a name. Every kind has a
dotted title that spells out its place in it and a short class for style sheets; plain text has the
empty class.
-/

namespace GaussMarkup

/-- What a stretch of GAUSS source is. -/
inductive Kind
  | text
  | whitespace
  | error
  | keyword
  | declaration
  | name
  | functionName
  | className
  | label
  | member
  | literal
  | string
  | stringEscape
  | integer
  | float
  | hex
  | operator
  | operatorWord
  | punctuation
  | comment
  | lineComment
  | blockComment
  | directive
  | directiveFile
  deriving DecidableEq, Repr, Inhabited

namespace Kind

/-- Every kind, parents before their children. -/
def all : List Kind :=
  [text, whitespace, error, keyword, declaration, name, functionName, className, label, member,
    literal, string, stringEscape, integer, float, hex, operator, operatorWord, punctuation,
    comment, lineComment, blockComment, directive, directiveFile]

def title : Kind → String
  | text => "Text"
  | whitespace => "Text.Whitespace"
  | error => "Error"
  | keyword => "Keyword"
  | declaration => "Keyword.Declaration"
  | name => "Name"
  | functionName => "Name.Function"
  | className => "Name.Class"
  | label => "Name.Label"
  | member => "Name.Attribute"
  | literal => "Literal"
  | string => "Literal.String"
  | stringEscape => "Literal.String.Escape"
  | integer => "Literal.Number.Integer"
  | float => "Literal.Number.Float"
  | hex => "Literal.Number.Hex"
  | operator => "Operator"
  | operatorWord => "Operator.Word"
  | punctuation => "Punctuation"
  | comment => "Comment"
  | lineComment => "Comment.Single"
  | blockComment => "Comment.Multiline"
  | directive => "Comment.Preproc"
  | directiveFile => "Comment.PreprocFile"

def cssClass : Kind → String
  | text => ""
  | whitespace => "w"
  | error => "err"
  | keyword => "k"
  | declaration => "kd"
  | name => "n"
  | functionName => "nf"
  | className => "nc"
  | label => "nl"
  | member => "na"
  | literal => "l"
  | string => "s"
  | stringEscape => "se"
  | integer => "mi"
  | float => "mf"
  | hex => "mh"
  | operator => "o"
  | operatorWord => "ow"
  | punctuation => "p"
  | comment => "c"
  | lineComment => "c1"
  | blockComment => "cm"
  | directive => "cp"
  | directiveFile => "cpf"

/-- The kind directly above, if there is one. -/
def parent? : Kind → Option Kind
  | whitespace => some text
  | declaration => some keyword
  | functionName | className | label | member => some name
  | string | integer | float | hex => some literal
  | stringEscape => some string
  | operatorWord => some operator
  | lineComment | blockComment | directive => some comment
  | directiveFile => some directive
  | text | error | keyword | name | literal | operator | punctuation | comment => none

/-- How many kinds stand above. -/
def depth : Kind → Nat
  | stringEscape | directiveFile => 2
  | text | error | keyword | name | literal | operator | punctuation | comment => 0
  | _ => 1

theorem depth_parent {k p : Kind} (h : k.parent? = some p) : p.depth + 1 = k.depth := by
  cases k <;> simp [parent?] at h <;> subst h <;> rfl

/-- The kind itself and all kinds above it, nearest first. -/
def lineage (k : Kind) : List Kind :=
  k :: match _h : k.parent? with
    | none => []
    | some p => lineage p
termination_by k.depth
decreasing_by have := depth_parent _h; omega

/-- Whether `k` is `ancestor` or stands below it. -/
def isBelow (k ancestor : Kind) : Bool :=
  k.lineage.contains ancestor

def ofTitle? (t : String) : Option Kind :=
  all.find? (fun k => k.title == t)

theorem mem_all (k : Kind) : k ∈ all := by
  cases k <;> decide

end Kind

end GaussMarkup
