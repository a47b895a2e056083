import GaussMarkup.Registry.Ordered
import GaussMarkup.Text.Lowercase
import GaussMarkup.Toml.Basic

/-!
# Trees of settings

Settings come from documents and from single assignments. Until they are decoded they form a tree of
tables, arrays and single values. Putting a table into a tree merges it key by key; putting anything
else replaces what was there. The case of keys does not matter.
-/

namespace GaussMarkup

/-- The file that a setting comes from; nothing if it was given by itself. -/
abbrev Origin := Option (List Char)

inductive Scalar
  | nil
  | boolean (b : Bool)
  | integer (n : Int)
  | float (x : Binary)
  | string (s : List Char)
  deriving DecidableEq, Repr, Inhabited

/-- A setting: a single value, an array or a table. -/
inductive Setting
  | scalar (origin : Origin) (value : Scalar)
  | array (origin : Origin) (items : List Setting)
  | table (origin : Origin) (fields : List (List Char × Setting))
  deriving Repr, Inhabited

abbrev Fields := List (List Char × Setting)

namespace Setting

/-- A setting that is not there. -/
def missing : Setting :=
  .scalar none .nil

def emptyTable : Setting :=
  .table none []

def origin : Setting → Origin
  | .scalar origin _ => origin
  | .array origin _ => origin
  | .table origin _ => origin

/-- The parts of a table; what is no table counts as an empty one. -/
def asTable : Setting → Origin × Fields
  | .table origin fields => (origin, fields)
  | _ => (none, [])

/-- The parts of an array; what is no array counts as an empty one. -/
def asArray : Setting → Origin × List Setting
  | .array origin items => (origin, items)
  | _ => (none, [])

/-- The field of a table under a key, if there is one. -/
def field? (s : Setting) (key : List Char) : Option Setting :=
  s.asTable.2.lookup key

/-- A table with another value for a key. -/
def setField (s : Setting) (key : List Char) (value : Setting) : Setting :=
  .table s.asTable.1 (registerBy Prod.fst (key, value) s.asTable.2)

mutual

/-- Puts a setting into a table under a key. A table is merged into what is there. -/
def put (key : List Char) : (value here : Setting) → Setting
  | .table _ fields, here =>
    here.setField (lowercase key) (putAll fields ((here.field? (lowercase key)).getD emptyTable))
  | .array origin items, here => here.setField (lowercase key) (.array origin items)
  | .scalar origin value, here => here.setField (lowercase key) (.scalar origin value)

/-- Puts fields into a table, one after the other. -/
def putAll : (fields : List (List Char × Setting)) → (here : Setting) → Setting
  | [], here => here
  | (key, value) :: fields, here => putAll fields (put key value here)

end

end Setting

mutual

/-- A value of a document as a setting. -/
def Setting.ofNode (origin : Origin) : Toml.Node → Setting
  | .string s => .scalar origin (.string s)
  | .integer n => .scalar origin (.integer n)
  | .float x => .scalar origin (.float x)
  | .boolean b => .scalar origin (.boolean b)
  | .dateTime s => .scalar origin (.string s)
  | .array items => .array origin (Setting.ofNodes origin items)
  | .tables items => .array origin (Setting.ofNodes origin items)
  | .table _ entries => .table origin (Setting.ofEntries origin entries)

def Setting.ofNodes (origin : Origin) : List Toml.Node → List Setting
  | [] => []
  | node :: nodes => Setting.ofNode origin node :: Setting.ofNodes origin nodes

def Setting.ofEntries (origin : Origin) : List (List Char × Toml.Node) → List (List Char × Setting)
  | [] => []
  | (key, node) :: entries => (key, Setting.ofNode origin node) :: Setting.ofEntries origin entries

end

end GaussMarkup
