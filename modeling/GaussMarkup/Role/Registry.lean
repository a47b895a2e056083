import GaussMarkup.Registry.Ordered
import GaussMarkup.Role.MenuSelection
import GaussMarkup.Text.Quoted

/-!
# Roles by name

Roles are registered and looked up by the lower-case form of their names. Markup that names no role
gets the default role of the document.
-/

namespace GaussMarkup

inductive RoleError
  | unknown (name : List Char)
  deriving DecidableEq, Repr

def RoleError.message : RoleError → List Char
  | unknown name => "unknown interpreted text role '".toList ++ name ++ ['\'']

structure RoleRegistry where
  entries : List (List Char × Role) := []

/-- What an extension says about itself when it is set up. -/
structure ExtensionInfo where
  version : String
  parallelReadSafe : Bool
  parallelWriteSafe : Bool
  deriving DecidableEq, Repr

/-- What the menu roles say about themselves. -/
def menuExtension : ExtensionInfo :=
  ⟨"builtin", true, true⟩

namespace RoleRegistry

/-- Adds a role; one of the same name in lower case is replaced. -/
def register (r : RoleRegistry) (name : List Char) (role : Role) : RoleRegistry :=
  ⟨registerBy Prod.fst (lowercase name, role) r.entries⟩

/-- Adds the menu roles. -/
def setup (r : RoleRegistry) : RoleRegistry :=
  (r.register menuSelectionName menuRole).register guiLabelName menuRole

def standard : RoleRegistry :=
  setup {}

/-- The role of a name in any case. -/
def get (r : RoleRegistry) (name : List Char) : Except RoleError Role :=
  match r.entries.find? (fun e => e.1 == lowercase name) with
  | some e => .ok e.2
  | none => .error (.unknown name)

def has (r : RoleRegistry) (name : List Char) : Bool :=
  r.entries.any fun e => e.1 == lowercase name

def names (r : RoleRegistry) : List (List Char) :=
  sortedNames Prod.fst r.entries

/-- The registry as a text that lists its names. -/
def describe (r : RoleRegistry) : List Char :=
  "RoleRegistry \x7b roles: [".toList ++ List.intercalate ", ".toList (r.names.map quote) ++
    "] \x7d".toList

/-- Uses the role that a call names, or the default role of the document if it names none. -/
def dispatch (r : RoleRegistry) (call : RoleCall) : Except RoleError RoleOutput :=
  let name := if call.name = [] then call.settings.defaultRole.getD [] else call.name
  (r.get name).map (· call)

end RoleRegistry

end GaussMarkup
