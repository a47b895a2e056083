import GaussMarkup.Text.Trim

/-!
# Preparing source text

Before a text is lexed it may be brought into shape: line ends become line feeds, blanks or line
feeds are taken off both ends, tabs become spaces, and the last line gets its line feed. With no
option set the text is left exactly as it is, line ends included.
-/

namespace GaussMarkup

structure SourceOptions where
  /-- Take line feeds off both ends. -/
  stripNewlines : Bool := false
  /-- Take all blanks off both ends. -/
  stripAll : Bool := false
  /-- End the last line with a line feed. -/
  ensureNewline : Bool := false
  /-- The width of a tab in columns; zero leaves tabs alone. -/
  tabSize : Nat := 0
  deriving DecidableEq, Repr, Inhabited

/-- Whether the options leave every text alone. -/
def SourceOptions.isIdentity (o : SourceOptions) : Bool :=
  o == {}

/-- Every line end as a line feed: a carriage return with a line feed, or one alone. -/
def unifyLineEnds : List Char → List Char
  | '\r' :: '\n' :: s => '\n' :: unifyLineEnds s
  | c :: s => (if c = '\r' then '\n' else c) :: unifyLineEnds s
  | [] => []

/-- Tabs as spaces, from a column on: each fills up to the next multiple of `size`. -/
def expandTabsFrom (size column : Nat) : List Char → List Char
  | [] => []
  | c :: s =>
    if c = '\t' then
      List.replicate (size - column % size) ' ' ++
        expandTabsFrom size (column + (size - column % size)) s
    else if c = '\n' then c :: expandTabsFrom size 0 s
    else c :: expandTabsFrom size (column + 1) s

/-- Tabs as spaces, counting columns from the start of each line. -/
def expandTabs (size : Nat) (s : List Char) : List Char :=
  expandTabsFrom size 0 s

/-- The text with a line feed at its end. -/
def closeLastLine (s : List Char) : List Char :=
  if s.getLast? = some '\n' then s else s ++ ['\n']

/-- The text without what the options take off its ends. -/
def SourceOptions.strip (o : SourceOptions) (s : List Char) : List Char :=
  if o.stripAll then trim s else if o.stripNewlines then trimWhere (· == '\n') s else s

def SourceOptions.prepare (o : SourceOptions) (s : List Char) : List Char :=
  if o.isIdentity then s
  else
    let stripped := o.strip (unifyLineEnds s)
    let expanded := if 0 < o.tabSize then expandTabs o.tabSize stripped else stripped
    if o.ensureNewline then closeLastLine expanded else expanded

end GaussMarkup
