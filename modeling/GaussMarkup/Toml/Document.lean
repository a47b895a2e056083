import GaussMarkup.Toml.Scalar

/-!
# Reading TOML

A document is read line by line: a header opens a table or adds one to an array, and a key with a
value adds to the table that is open. Anything that is not TOML refuses the whole document.
Arrays and tables in braces may be nested at most `nestingLimit` deep.
-/

namespace GaussMarkup.Toml

/-- The text behind blanks, line ends and comments. The number of lines is bounded. -/
def skipLines : (bound : Nat) → List Char → Option (List Char)
  | 0, _ => none
  | bound + 1, s =>
    (skipComment (s.dropWhile isSpace)).bind fun t =>
      match t with
      | '\n' :: u => skipLines bound u
      | '\r' :: '\n' :: u => skipLines bound u
      | u => some u

mutual

/-- A value, at most `depth` levels deep. Each reader calls another on a smaller bound. -/
def readValue (depth : Nat) : (bound : Nat) → List Char → Read Node
  | 0, _ => none
  | bound + 1, s =>
    match s with
    | '"' :: _ => (readString s).map fun x => (.string x.1, x.2)
    | '\'' :: _ => (readString s).map fun x => (.string x.1, x.2)
    | '[' :: t =>
      if depth = 0 then none
      else (readItems (depth - 1) bound t).map fun x => (.array x.1, x.2)
    | '{' :: t =>
      if depth = 0 then none
      else
        match t.dropWhile isSpace with
        | '}' :: u => some (.table .closed [], u)
        | u => (readFields (depth - 1) bound [] u).map fun x => (.table .closed x.1, x.2)
    | _ => readScalar s

/-- The items of an array behind its bracket or a comma. -/
def readItems (depth : Nat) : (bound : Nat) → List Char → Read (List Node)
  | 0, _ => none
  | bound + 1, s =>
    (skipLines (s.length + 1) s).bind fun t =>
      match t with
      | ']' :: u => some ([], u)
      | _ =>
        (readValue depth bound t).bind fun item =>
          (skipLines (item.2.length + 1) item.2).bind fun u =>
            match u with
            | ',' :: w => (readItems depth bound w).map fun later => (item.1 :: later.1, later.2)
            | ']' :: w => some ([item.1], w)
            | _ => none

/-- The fields of a table in braces behind those that were read. -/
def readFields (depth : Nat) : (bound : Nat) → Entries → List Char → Read Entries
  | 0, _, _ => none
  | bound + 1, entries, s =>
    (readKey s).bind fun key =>
      match key.2 with
      | '=' :: t =>
        (readValue depth bound (t.dropWhile isSpace)).bind fun value =>
          (entries.insertDotted? value.1 key.1).bind fun entries =>
            match value.2.dropWhile isSpace with
            | ',' :: u => readFields depth bound entries u
            | '}' :: u => some (entries, u)
            | _ => none
      | _ => none

end

/-- A document while it is read: its entries, and the header that is open. -/
structure Reader where
  entries : Entries := []
  header : List (List Char) := []

/-- A header with single or double brackets, behind its first bracket. -/
def Reader.readHeader (r : Reader) (s : List Char) : Option (Reader × List Char) :=
  let (double, s) := match s with
    | '[' :: t => (true, t)
    | t => (false, t)
  (readKey s).bind fun key =>
    let path := key.1.dropLast
    let name := (key.1.getLast?).getD []
    let rest? := match double, key.2 with
      | true, ']' :: ']' :: t => some t
      | false, ']' :: t => some t
      | _, _ => none
    rest?.bind fun rest =>
      let change := if double then Entries.addTable? name else Entries.nameTable? name
      (r.entries.changeAt? change path).map fun entries =>
        ({ entries := entries, header := key.1 }, rest)

def Reader.readPair (r : Reader) (s : List Char) : Option (Reader × List Char) :=
  (readKey s).bind fun key =>
    match key.2 with
    | '=' :: t =>
      (readValue nestingLimit (2 * t.length + 2) (t.dropWhile isSpace)).bind fun value =>
        (r.entries.changeAt? (·.insertDotted? value.1 key.1) r.header).map fun entries =>
          ({ r with entries := entries }, value.2)
    | _ => none

/-- The rest of a document. Every round reads at least one character or ends. -/
def Reader.readLines (r : Reader) : (bound : Nat) → List Char → Option Entries
  | 0, _ => none
  | bound + 1, s =>
    match s.dropWhile isSpace with
    | [] => some r.entries
    | '[' :: t =>
      (r.readHeader t).bind fun x => (endOfLine x.2).bind fun rest => x.1.readLines bound rest
    | '#' :: t => (endOfLine ('#' :: t)).bind fun rest => r.readLines bound rest
    | '\n' :: t => r.readLines bound t
    | '\r' :: '\n' :: t => r.readLines bound t
    | t => (r.readPair t).bind fun x => (endOfLine x.2).bind fun rest => x.1.readLines bound rest

/-- The entries of a document, if the text is one. -/
def parse? (s : List Char) : Option Entries :=
  let s := if s.head? = some '\ufeff' then s.drop 1 else s
  ({} : Reader).readLines (s.length + 1) s

end GaussMarkup.Toml
