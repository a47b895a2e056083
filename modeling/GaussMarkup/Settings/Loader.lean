import GaussMarkup.Settings.Decode
import GaussMarkup.Settings.KeyPath
import GaussMarkup.Toml.Tagged

/-!
# Loading settings

Settings are laid one over the other: first the defaults, then files in the order in which they were
added, last single assignments, wherever they were made. A file need name only what it changes. A
key assigned twice keeps the second value.
-/

namespace GaussMarkup

/-- What there is under the name of a file of settings. -/
inductive SettingsSource
  | missing
  /-- A file that is not UTF-8. -/
  | malformed
  | text (place content : List Char)
  deriving DecidableEq, Repr

structure SettingsFile where
  /-- The name under which it was asked for. -/
  name : List Char
  /-- Whether it has to be readable. -/
  required : Bool := true
  source : SettingsSource
  deriving DecidableEq, Repr

/-- Files and assignments that make settings. -/
structure Loader where
  files : List SettingsFile := []
  assignments : List (KeyPath × Setting) := []
  deriving Repr, Inhabited

def Setting.ofText (s : List Char) : Setting :=
  .scalar none (.string s)

/-- The tree of settings that every loader starts from. -/
def Settings.defaultTree : Setting :=
  let table := fun (fields : List (String × Setting)) =>
    Setting.table none (fields.map fun f => (f.1.toList, f.2))
  let no : Setting := .scalar none (.boolean false)
  table
    [("lexer", table
        [("strip_newlines", no), ("strip_all", no), ("ensure_newline", no),
          ("tab_size", .scalar none (.integer 0))]),
      ("html", table
        [("css_class", .ofText "highlight".toList), ("class_prefix", .ofText [])]),
      ("signature", table [("separator", .ofText ", ".toList)]),
      ("roles", table [("menu_arrow", .ofText ">".toList)])]

/-- The path that a key at the top of a file spells; a key that spells none stands for itself. -/
def topPath (key : List Char) : KeyPath :=
  (KeyPath.parse? key).getD [.field key]

/-- The tree with the fields of a file laid over it. -/
def Setting.layer (tree : Setting) (fields : Fields) : Setting :=
  fields.foldl (fun tree field => Setting.assign field.2 (topPath field.1) tree) tree

/-- The fields of a file. A file that cannot be read and need not be has none. -/
def SettingsFile.fields (file : SettingsFile) : Except SettingsError Fields :=
  match file.source with
  | .missing => if file.required then .error (.missingFile file.name) else .ok []
  | .malformed => if file.required then .error .notUtf8 else .ok []
  | .text place content =>
    match Toml.document? content with
    | none => .error .notToml
    | some (.table _ entries) => .ok (Setting.ofEntries (some place) entries)
    | some node => .error (.noTable (Setting.ofNode (some place) node) place)

namespace Loader

def addFile (l : Loader) (file : SettingsFile) : Loader :=
  { l with files := l.files ++ [file] }

/-- Adds an assignment; an earlier one of the same path is dropped. -/
def assign (l : Loader) (key : List Char) (value : Setting) : Except SettingsError Loader :=
  match KeyPath.parse? key with
  | none => .error .badKey
  | some path =>
    .ok { l with assignments := l.assignments.filter (·.1 ≠ path) ++ [(path, value)] }

/-- Assigns the role of markup that names none. -/
def assignDefaultRole (l : Loader) (role : List Char) : Except SettingsError Loader :=
  l.assign "roles.default_role".toList (.ofText role)

/-- The tree of all files over the defaults. -/
def fileTree (l : Loader) : Except SettingsError Setting :=
  l.files.foldlM (fun tree file => tree.layer <$> file.fields) Settings.defaultTree

def build (l : Loader) : Except SettingsError Settings :=
  l.fileTree.bind fun tree =>
    Settings.decode (l.assignments.foldl (fun tree a => Setting.assign a.2 a.1 tree) tree)

end Loader

/-- The default settings, with a file over them if there is one. -/
def Settings.load (file? : Option SettingsFile) : Except SettingsError Settings :=
  ({ files := file?.toList } : Loader).build

end GaussMarkup
