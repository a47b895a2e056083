import GaussMarkup.Command.Files
import GaussMarkup.Command.Request
import GaussMarkup.Format.Registry
import GaussMarkup.Language.Registry
import GaussMarkup.Lexicon.Basic
import GaussMarkup.Role.Registry
import GaussMarkup.Settings.Loader
import GaussMarkup.Signature.Html
import GaussMarkup.Signature.Parse

/-!
# Running a request

A request reads its settings first and then does what it is asked. It either has an output or fails
with one error; notes may come with both.
-/

namespace GaussMarkup

/-- Why a request fails. -/
inductive CommandError
  | settings (e : SettingsError)
  | file (e : FileError)
  | notUtf8
  | language (e : LanguageError)
  | format (e : FormatError)
  | role (e : RoleError)
  | signature (e : SignatureError)
  deriving Repr

namespace CommandError

def message : CommandError → List Char
  | settings e => "configuration error: ".toList ++ e.message
  | file e => "I/O error: ".toList ++ e.message
  | notUtf8 => "I/O error: stream did not contain valid UTF-8".toList
  | language e => e.message
  | format e => e.message
  | role e => e.message
  | signature e => e.message

/-- What the user is told. A file of settings that is no TOML is refused without a reason. -/
def report : CommandError → List Char
  | settings .notToml => "Error: configuration error:".toList
  | e => "Error: ".toList ++ e.message ++ ['\n']

end CommandError

/-- What the program leaves behind. -/
structure Outcome where
  status : Nat := 0
  output : List Char := []
  notes : List Char := []
  deriving DecidableEq, Repr

/-- An output with notes on the way to it. -/
structure Product where
  output : List Char
  notes : List Char := []
  deriving DecidableEq, Repr

/-! ## Reading files -/

def readText (read : FileReader) (path : List Char) : Except CommandError (List Char) :=
  match read path with
  | .error e => .error (.file e)
  | .ok bytes =>
    match Utf8.decode? bytes with
    | none => .error .notUtf8
    | some text => .ok text

/-- A reversed path without what follows its last name. -/
def dropDirectoryMarks : List Char → List Char
  | '/' :: s => dropDirectoryMarks s
  | '.' :: '/' :: s => dropDirectoryMarks s
  | s => s

/-- The paths under which a file of settings is looked for: its own, and the same with an
extension. -/
def settingsPaths (path : List Char) : List (List Char) :=
  match fileName? path with
  | none => [path]
  | some _ => [path, (dropDirectoryMarks path.reverse).reverse ++ ".toml".toList]

/-- A path without parts that mean nothing. -/
def plainPath (path : List Char) : List Char :=
  (if path.head? = some '/' then ['/'] else []) ++ List.intercalate ['/'] (pathParts path)

def settingsSource? (read : FileReader) (path : List Char) : Option SettingsSource :=
  (read path).toOption.map fun bytes =>
    match Utf8.decode? bytes with
    | none => .malformed
    | some content => .text (plainPath path) content

/-- The file of settings under a path; the first path that leads to a file counts. -/
def settingsFile (read : FileReader) (path : List Char) : SettingsFile where
  name := path
  source := ((settingsPaths path).findSome? (settingsSource? read)).getD .missing

def Action.source? : Action → Option (List Char)
  | .highlight path _ _ => some path
  | .detect path => some path
  | _ => none

/-- The paths that an invocation may read. -/
def Invocation.paths (i : Invocation) : List (List Char) :=
  (i.settings?.map settingsPaths).getD [] ++ i.action.source?.toList

/-! ## Actions -/

def commaSeparated (texts : List (List Char)) : List Char :=
  List.intercalate ", ".toList texts

def highlightFile (read : FileReader) (s : Settings) (path format : List Char)
    (language? : Option (List Char)) : Except CommandError (List Char) := do
  let text ← readText read path
  let languages := LanguageRegistry.standard s.source
  let language ← match language? with
    | some name => (languages.get name).mapError .language
    | none => (languages.select path text).mapError .language
  ((FormatterRegistry.withHtml s.html).format format (language.tokens text)).mapError .format

def detectLanguage (read : FileReader) (s : Settings) (path : List Char) :
    Except CommandError (List Char) := do
  let text ← readText read path
  let language ← ((LanguageRegistry.standard s.source).select path text).mapError .language
  return language.name ++ ['\n']

/-- What a note calls a level. -/
def MessageLevel.label : MessageLevel → String
  | .info => "Info"
  | .warning => "Warning"
  | .error => "Error"

/-- Text marked with a role, as markup; what the role has to say becomes notes. -/
def renderRole (s : Settings) (text role : List Char) : Except CommandError Product := do
  let call : RoleCall :=
    { name := role
      rawText := ':' :: role ++ ":\x60".toList ++ text ++ ['\x60']
      text
      line := 1
      settings := s.roles }
  let made ← (RoleRegistry.standard.dispatch call).mapError .role
  return {
    output := made.nodes.flatMap Inline.render ++ ['\n']
    notes := made.messages.flatMap fun m =>
      m.level.label.toList ++ ": ".toList ++ m.text ++ ['\n'] }

def renderSignature (s : Settings) (text : List Char) : Except CommandError (List Char) := do
  let signature ← (Signature.parse text).mapError .signature
  return (signature.withSeparator s.separator).render ++ ['\n']

/-- Each word with the list it is on, one a line. -/
def classifyWords (words : List (List Char)) : List Char :=
  words.flatMap fun w =>
    w ++ '\t' :: (((classifyWord? w).map WordClass.title).getD "name").toList ++ ['\n']

def describeLanguages (s : Settings) : List Char :=
  let languages := LanguageRegistry.standard s.source
  "Available lexers:\n\n".toList ++ languages.names.flatMap fun name =>
    match languages.get name with
    | .error _ => []
    | .ok l =>
      "  ".toList ++ name ++ "\n    aliases: ".toList ++ commaSeparated l.aliases ++
        "\n    filenames: ".toList ++ commaSeparated l.filenames ++ ['\n']

def describeFormats (s : Settings) : List Char :=
  let formatters := FormatterRegistry.withHtml s.html
  "Available formats:\n\n".toList ++ formatters.names.flatMap fun name =>
    match formatters.get name with
    | .error _ => []
    | .ok f => "  ".toList ++ name ++ "\n    ".toList ++ f.description ++ ['\n']

/-- What an action makes. -/
def Action.run (read : FileReader) (s : Settings) : Action → Except CommandError Product
  | .highlight path format language? => (highlightFile read s path format language?).map (⟨·, []⟩)
  | .detect path => (detectLanguage read s path).map (⟨·, []⟩)
  | .menu text role => renderRole s text role
  | .signature text => (renderSignature s text).map (⟨·, []⟩)
  | .classify words => .ok ⟨classifyWords words, []⟩
  | .listLanguages => .ok ⟨describeLanguages s, []⟩
  | .listFormats => .ok ⟨describeFormats s, []⟩

/-! ## Requests -/

def Invocation.run (read : FileReader) (i : Invocation) : Except CommandError Product := do
  let settings ← (Settings.load (i.settings?.map (settingsFile read))).mapError .settings
  i.action.run read settings

/-- What is being done, for users who want to know. -/
def Invocation.trace (i : Invocation) : List Char :=
  let note := fun (what : String) (path : List Char) => what.toList ++ path ++ ['\n']
  if i.verbose then
    i.settings?.toList.flatMap (note "DEBUG settings from ") ++
      i.action.source?.toList.flatMap (note "DEBUG source from ")
  else []

def usage : List Char :=
  "Documentation tooling for GAUSS sources\n\n".toList ++
    "Usage: gaussdoc [OPTIONS] <COMMAND>\n\nCommands:\n".toList ++
    Command.all.flatMap (fun c => "  ".toList ++ c.name.toList ++ ['\n']) ++
    "\nOptions:\n  -c, --config <config>\n  -v, --verbose\n  -h, --help\n  -V, --version\n".toList

def versionLine : List Char :=
  "gaussdoc 0.1.0\n".toList

def Request.run (read : FileReader) : Request → Outcome
  | .help => { output := usage }
  | .version => { output := versionLine }
  | .invoke i =>
    match i.run read with
    | .ok made => { output := made.output, notes := i.trace ++ made.notes }
    | .error e => { status := 1, notes := i.trace ++ e.report }

/-- What the program leaves behind for its arguments. Without a sensible request it tells how it is
used. -/
def runProgram (read : FileReader) (args : List (List Char)) : Outcome :=
  match Request.ofArguments? args with
  | some request => request.run read
  | none => { status := 2, notes := usage }

end GaussMarkup
