import GaussMarkup.Toml.Document

/-!
# Tagged dates

A date or time may also be given as a table that has a reserved key in front: the string under that
key spells it, and the other keys mean nothing. Such a table may stand anywhere, even for the whole
document. A document in which one of them spells no date is refused.
-/

namespace GaussMarkup.Toml

/-- The key in front of a table that stands for a date or time. -/
def dateTag : List Char :=
  "$__toml_private_datetime".toList

/-- What a table has under the reserved key, if that is its first key. -/
def Entries.tagged? : Entries → Option Node
  | [] => none
  | (key, node) :: _ => if key = dateTag then some node else none

/-- The date or time that a string spells. Nothing but a string spells one. -/
def Node.spelledDate? : Node → Option Node
  | .string s => (dateTime? .quoted s).map .dateTime
  | _ => none

mutual

/-- A value with dates in place of the tables that stand for them. -/
def Node.untag? : Node → Option Node
  | .array items => (untagItems? items).map .array
  | .tables items => (untagItems? items).map .tables
  | .table kind entries =>
    match Entries.tagged? entries with
    | some node => node.spelledDate?
    | none => (untagEntries? entries).map (.table kind)
  | node => some node

/-- The items of an array with dates in place of the tables that stand for them. -/
def Node.untagItems? : List Node → Option (List Node)
  | [] => some []
  | node :: nodes => node.untag?.bind fun n => (untagItems? nodes).map (n :: ·)

/-- The entries of a table with dates in place of the tables that stand for them. -/
def Node.untagEntries? : List (List Char × Node) → Option (List (List Char × Node))
  | [] => some []
  | (key, node) :: entries =>
    node.untag?.bind fun n => (untagEntries? entries).map ((key, n) :: ·)

end

/-- The value of a document, if the text is one. It is a table or a date. -/
def document? (s : List Char) : Option Node :=
  (parse? s).bind fun entries => (Node.table .named entries).untag?

end GaussMarkup.Toml
