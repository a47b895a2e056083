import GaussMarkup.Format.Html
import GaussMarkup.Format.Json
import GaussMarkup.Format.Raw
import GaussMarkup.Registry.Ordered

/-!
# Output formats by name

A formatter turns tokens into text. The standard formats are highlighted markup, one line per token
and JSON.
-/

namespace GaussMarkup

structure Formatter where
  name : List Char
  description : List Char
  format : List Token → List Char

namespace Formatter

def html (style : HtmlStyle) : Formatter where
  name := "html".toList
  description := "Highlighted HTML with one span per token run".toList
  format ts := style.render (ts.map Token.lexeme)

/-- One line per token. -/
def raw : Formatter where
  name := "raw".toList
  description := "One line per token with its kind and quoted text".toList
  format ts := rawDump (ts.map Token.lexeme)

def json : Formatter where
  name := "json".toList
  description := "Token array as pretty-printed JSON".toList
  format ts := jsonDump (ts.map Token.jsonEntry)

end Formatter

inductive FormatError
  | formatterNotFound (name : List Char)
  deriving DecidableEq, Repr

def FormatError.message : FormatError → List Char
  | formatterNotFound name => "formatter '".toList ++ name ++ "' not found".toList

structure FormatterRegistry where
  formatters : List Formatter := []

namespace FormatterRegistry

/-- The standard formats, the markup with a given style. -/
def withHtml (style : HtmlStyle) : FormatterRegistry :=
  ⟨[.html style, .raw, .json]⟩

def standard : FormatterRegistry :=
  withHtml {}

/-- Adds a formatter; one of the same name is replaced. -/
def register (r : FormatterRegistry) (f : Formatter) : FormatterRegistry :=
  ⟨registerBy Formatter.name f r.formatters⟩

/-- The formatter with exactly this name. -/
def get (r : FormatterRegistry) (name : List Char) : Except FormatError Formatter :=
  match r.formatters.find? (fun f => f.name == name) with
  | some f => .ok f
  | none => .error (.formatterNotFound name)

def has (r : FormatterRegistry) (name : List Char) : Bool :=
  r.formatters.any fun f => f.name == name

def names (r : FormatterRegistry) : List (List Char) :=
  sortedNames Formatter.name r.formatters

def format (r : FormatterRegistry) (name : List Char) (ts : List Token) :
    Except FormatError (List Char) :=
  (r.get name).map fun f => f.format ts

end FormatterRegistry

end GaussMarkup
