import GaussMarkup.Language.Basic
import GaussMarkup.Language.FileName
import GaussMarkup.Language.Glob
import GaussMarkup.Registry.Ordered

/-!
# Finding a language

A language is found by its name or an alias in any case, by the name of a file, by a mime type, or
by asking every language for its opinion of a text. The first registered language that fits is the
answer; among opinions, the first that no later one exceeds.
-/

namespace GaussMarkup

inductive LanguageError
  | notFound (name : List Char)
  | noneForFilename (path : List Char)
  | noneForMimetype (mimetype : List Char)
  deriving DecidableEq, Repr

def LanguageError.message : LanguageError → List Char
  | notFound name => "no lexer named '".toList ++ name ++ ['\'']
  | noneForFilename path => "no lexer registered for filename '".toList ++ path ++ ['\'']
  | noneForMimetype mimetype => "no lexer registered for mimetype '".toList ++ mimetype ++ ['\'']

/-- Whether two names are the same up to the case of ASCII letters. -/
def sameName (s t : List Char) : Bool :=
  s.map Char.toLower == t.map Char.toLower

namespace Language

def isNamed (l : Language) (name : List Char) : Bool :=
  sameName l.name name || l.aliases.any (sameName · name)

/-- Whether a file of this name is written in the language. -/
def claimsFile (l : Language) (fileName : List Char) : Bool :=
  l.filenames.any (globMatches · fileName)

end Language

structure LanguageRegistry where
  languages : List Language := []

namespace LanguageRegistry

/-- GAUSS and plain text. -/
def standard (options : SourceOptions) : LanguageRegistry :=
  ⟨[.gauss options, .plainText]⟩

/-- Adds a language; one of exactly the same name is replaced in place. -/
def register (r : LanguageRegistry) (l : Language) : LanguageRegistry :=
  ⟨registerBy Language.name l r.languages⟩

/-- The first language that goes by a name. -/
def get (r : LanguageRegistry) (name : List Char) : Except LanguageError Language :=
  match r.languages.find? (·.isNamed name) with
  | some l => .ok l
  | none => .error (.notFound name)

def has (r : LanguageRegistry) (name : List Char) : Bool :=
  r.languages.any (·.isNamed name)

def names (r : LanguageRegistry) : List (List Char) :=
  sortedNames Language.name r.languages

/-- The first language that claims the file at the end of a path. A path that ends in no file has
the empty name. -/
def forFilename (r : LanguageRegistry) (path : List Char) : Except LanguageError Language :=
  match r.languages.find? (·.claimsFile ((fileName? path).getD [])) with
  | some l => .ok l
  | none => .error (.noneForFilename path)

/-- The first language with exactly this mime type. -/
def forMimetype (r : LanguageRegistry) (mimetype : List Char) : Except LanguageError Language :=
  match r.languages.find? (·.mimetypes.contains mimetype) with
  | some l => .ok l
  | none => .error (.noneForMimetype mimetype)

/-- The score one. -/
def certain : Score := Score.ofDecimal false 1 0

/-- The score zero. -/
def hopeless : Score := .finite false 0

/-- The better of the best opinion so far and the opinion of one more language. -/
def better (text : List Char) (best : Option (Language × Score)) (l : Language) :
    Option (Language × Score) :=
  match l.score? text with
  | none => best
  | some score =>
    let score := score.clamp hopeless certain
    match best with
    | none => some (l, score)
    | some (_, top) => if top.lt score then some (l, score) else best

def guess (r : LanguageRegistry) (text : List Char) : Option Language :=
  (r.languages.foldl (better text) none).map (·.1)

/-- The language of a file by its name, or else by its text. -/
def select (r : LanguageRegistry) (path text : List Char) : Except LanguageError Language :=
  match r.forFilename path with
  | .ok l => .ok l
  | .error e =>
    match r.guess text with
    | some l => .ok l
    | none => .error e

end LanguageRegistry

end GaussMarkup
