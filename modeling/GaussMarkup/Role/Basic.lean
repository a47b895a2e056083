import GaussMarkup.Role.Inline

/-!
# Roles

A role turns the marked text of a document into inline nodes, with messages about what is wrong with
it. It is called with the name under which it was invoked, the source of the markup, the marked text
and the line, and knows what the document is set to.
-/

namespace GaussMarkup

inductive MessageLevel
  | info
  | warning
  | error
  deriving DecidableEq, Repr, Inhabited

/-- What a message calls its level. -/
def MessageLevel.title : MessageLevel → String
  | info => "info"
  | warning => "warning"
  | error => "error"

structure Message where
  level : MessageLevel
  line : Nat
  text : List Char
  deriving DecidableEq, Repr

/-- What a document is set to. -/
structure RoleSettings where
  /-- What stands for `-->` in a menu selection. -/
  menuArrow : List Char := ['>']
  /-- The role of markup that names none. -/
  defaultRole : Option (List Char) := none
  deriving DecidableEq, Repr, Inhabited

structure RoleCall where
  /-- The name that the markup gives; empty if it gives none. -/
  name : List Char
  /-- The source of the markup. -/
  rawText : List Char
  text : List Char
  line : Nat
  settings : RoleSettings

structure RoleOutput where
  nodes : List Inline := []
  messages : List Message := []
  deriving Repr

abbrev Role := RoleCall → RoleOutput

end GaussMarkup
