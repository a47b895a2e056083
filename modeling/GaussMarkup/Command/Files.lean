import GaussMarkup.Language.FileName
import GaussMarkup.Text.Utf8

/-!
# Files

The program reads whole files by their paths. A tree of files answers such reads the way a file
system does: every part of a path but the last must be a directory, a dot stays where it is, two
dots go up, and nothing is known about what lies above the tree.
-/

namespace GaussMarkup

/-- Why a file cannot be read. -/
structure FileError where
  code : Nat
  reason : String
  deriving DecidableEq, Repr

namespace FileError

def notFound : FileError := ⟨2, "No such file or directory"⟩

def notDirectory : FileError := ⟨20, "Not a directory"⟩

def isDirectory : FileError := ⟨21, "Is a directory"⟩

def nameTooLong : FileError := ⟨36, "File name too long"⟩

def message (e : FileError) : List Char :=
  e.reason.toList ++ " (os error ".toList ++ (toString e.code).toList ++ [')']

end FileError

/-- The bytes of the file under a path. -/
abbrev FileReader := List Char → Except FileError (List UInt8)

/-- Files by the parts of their paths. -/
structure FileTree where
  files : List (List (List Char) × List UInt8) := []
  deriving Repr, Inhabited

/-- Where a path has led so far. -/
inductive FilePlace
  | above
  | directory (parts : List (List Char))
  | file (bytes : List UInt8)
  deriving DecidableEq, Repr

namespace FileTree

/-- The tree of files with their paths. Of two files under one path the later one stays. -/
def ofList (files : List (List Char × List UInt8)) : FileTree :=
  ⟨(files.map fun f => (pathParts f.1, f.2)).reverse⟩

/-- Whether there are files below a directory. -/
def hasDirectory (t : FileTree) (parts : List (List Char)) : Bool :=
  t.files.any fun f => parts.isPrefixOf f.1 && f.1 != parts

/-- What a name leads to. -/
def enter (t : FileTree) (name : List Char) : FilePlace → Except FileError FilePlace
  | .file _ => .error .notDirectory
  | .above => .error (if 255 < byteSize name then .nameTooLong else .notFound)
  | .directory parts =>
    let path := parts ++ [name]
    if 255 < byteSize name then .error .nameTooLong
    else
      match t.files.lookup path with
      | some bytes => .ok (.file bytes)
      | none => if t.hasDirectory path then .ok (.directory path) else .error .notFound

/-- What a part of a path leads to. -/
def step (t : FileTree) (place : FilePlace) (part : List Char) : Except FileError FilePlace :=
  if part = [] ∨ part = ['.'] then
    match place with
    | .file _ => .error .notDirectory
    | _ => .ok place
  else if part = ['.', '.'] then
    match place with
    | .file _ => .error .notDirectory
    | .directory [] => .ok .above
    | .directory parts => .ok (.directory parts.dropLast)
    | .above => .ok .above
  else t.enter part place

def read (t : FileTree) : FileReader := fun path =>
  if path = [] then .error .notFound
  else if 4096 ≤ byteSize path then .error .nameTooLong
  else
    let first : FilePlace := if path.head? = some '/' then .above else .directory []
    match (splitPathFrom [] path).foldlM t.step first with
    | .error e => .error e
    | .ok (.file bytes) => .ok bytes
    | .ok _ => .error .isDirectory

end FileTree

end GaussMarkup
