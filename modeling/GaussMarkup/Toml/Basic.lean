import GaussMarkup.Decimal.Binary

/-!
# TOML documents

A TOML document is a table of tables, arrays and single values. A table remembers how it came about,
because that decides who may add to it: a table that a header names is named once, one that dotted
keys made takes further dotted keys, and one in braces is closed.
-/

namespace GaussMarkup.Toml

/-- How a table came about. -/
inductive TableKind
  /-- As a step on the way of a longer header. -/
  | implied
  /-- By a header of its own. -/
  | named
  /-- By dotted keys. -/
  | dotted
  /-- In braces. -/
  | closed
  deriving DecidableEq, Repr, Inhabited

/-- A value of a document. Dates and times are kept as texts in normal form. -/
inductive Node
  | string (s : List Char)
  | integer (n : Int)
  | float (x : Binary)
  | boolean (b : Bool)
  | dateTime (s : List Char)
  | array (items : List Node)
  /-- An array that headers in double brackets add tables to. -/
  | tables (items : List Node)
  | table (kind : TableKind) (entries : List (List Char × Node))
  deriving Repr, Inhabited

abbrev Entries := List (List Char × Node)

def Entries.find? (key : List Char) (entries : Entries) : Option Node :=
  entries.lookup key

/-- The entries with another value for a key that is there. -/
def Entries.replace (key : List Char) (node : Node) (entries : Entries) : Entries :=
  entries.map fun e => if e.1 = key then (key, node) else e

/-- A value that dotted keys lead to, added to a table. Dotted keys may pass through tables that are
implied, but the table in which they end is one that dotted keys made. -/
def Entries.insertDotted? (value : Node) : (path : List (List Char)) → Entries → Option Entries
  | [], _ => none
  | [key], entries => if (entries.find? key).isSome then none else some (entries ++ [(key, value)])
  | key :: next :: path, entries =>
    match entries.find? key with
    | none =>
      (insertDotted? value (next :: path) []).map fun inner =>
        entries ++ [(key, .table .dotted inner)]
    | some (.table kind inner) =>
      if kind = .dotted ∨ kind = .implied ∧ path ≠ [] then
        (insertDotted? value (next :: path) inner).map fun inner =>
          entries.replace key (.table kind inner)
      else none
    | some (.tables items) =>
      match items.getLast? with
      | some (.table kind inner) =>
        if path = [] then none
        else
          (insertDotted? value (next :: path) inner).map fun inner =>
            entries.replace key (.tables (items.dropLast ++ [.table kind inner]))
      | _ => none
    | some _ => none

/-- Changes the table that a header leads to; the tables on the way are made where they are
missing. An array of tables stands for its last one. -/
def Entries.changeAt? (change : Entries → Option Entries) :
    (path : List (List Char)) → Entries → Option Entries
  | [], entries => change entries
  | key :: path, entries =>
    match entries.find? key with
    | none => (changeAt? change path []).map fun inner => entries ++ [(key, .table .implied inner)]
    | some (.table .closed _) => none
    | some (.table kind inner) =>
      (changeAt? change path inner).map fun inner => entries.replace key (.table kind inner)
    | some (.tables items) =>
      match items.getLast? with
      | some (.table kind inner) =>
        (changeAt? change path inner).map fun inner =>
          entries.replace key (.tables (items.dropLast ++ [.table kind inner]))
      | _ => none
    | some _ => none

/-- Opens a table by its header. It must be new, or only implied so far; its place is where it is
named. -/
def Entries.nameTable? (key : List Char) (entries : Entries) : Option Entries :=
  match entries.find? key with
  | none => some (entries ++ [(key, .table .named [])])
  | some (.table .implied inner) =>
    some (entries.filter (·.1 ≠ key) ++ [(key, .table .named inner)])
  | some _ => none

/-- Adds a table to an array of tables by its header. -/
def Entries.addTable? (key : List Char) (entries : Entries) : Option Entries :=
  match entries.find? key with
  | none => some (entries ++ [(key, .tables [.table .named []])])
  | some (.tables items) => some (entries.replace key (.tables (items ++ [.table .named []])))
  | some _ => none

end GaussMarkup.Toml
