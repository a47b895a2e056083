import GaussMarkup.Command.Run

/-!
# The program

Reads the files that a request may need, runs it, and prints what it leaves behind.
-/

namespace GaussMarkup

/-- The number of an error. Some reads report it with a minus, as a word of 32 bits. -/
def errorNumber (code : UInt32) : Nat :=
  code.toInt32.toInt.natAbs

def fileErrorOf : IO.Error → FileError
  | .noFileOrDirectory .. => .notFound
  | .permissionDenied _ code _ => ⟨errorNumber code, "Permission denied"⟩
  | .inappropriateType _ code reason =>
    ([FileError.notDirectory, .isDirectory].find? (·.code == errorNumber code)).getD
      ⟨errorNumber code, reason⟩
  | e => ⟨5, toString e⟩

def readFile (path : List Char) : IO (Except FileError (List UInt8)) := do
  try
    return .ok (← IO.FS.readBinFile (String.ofList path)).toList
  catch e =>
    return .error (fileErrorOf e)

/-- A reader for the files that a request may need. -/
def readerFor (request : Option Request) : IO FileReader := do
  let paths := match request with
    | some (.invoke i) => i.paths
    | _ => []
  let contents ← paths.mapM fun path => return (path, ← readFile path)
  return fun path => (contents.lookup path).getD (.error .notFound)

end GaussMarkup

def main (args : List String) : IO UInt32 := do
  let args := args.map String.toList
  let read ← GaussMarkup.readerFor (GaussMarkup.Request.ofArguments? args)
  let outcome := GaussMarkup.runProgram read args
  IO.print (String.ofList outcome.output)
  IO.eprint (String.ofList outcome.notes)
  return UInt32.ofNat outcome.status
