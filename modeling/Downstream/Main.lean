import Downstream.Cli.Run

/-!
# The program

Answers the calls of `Cli.run` by input and output. The system layer does not tell permission bits,
and a file that is written over keeps those it has, so none are set.
-/

namespace Downstream.Main

/-- The kind of a failure of the system. -/
def kindOf : IO.Error → FileError.Kind
  | .noFileOrDirectory .. => .notFound
  | .noSuchThing .. => .notFound
  | .permissionDenied .. => .permissionDenied
  | .interrupted .. => .interrupted
  | .inappropriateType _ code _ => if code = 20 then .notADirectory else .isADirectory
  | _ => .other

/-- The result of an action on a file, whose failure is the system's. -/
def attempt {α : Type} (action : IO α) : IO (Except FileError α) := do
  match ← action.toBaseIO with
  | .ok a => return .ok a
  | .error e =>
    let kind := kindOf e
    return .error ⟨kind, if kind = .other then some (toString e) else none⟩

/-- The content of a file. -/
def readFile (path : String) : IO (Except FileError Bytes) :=
  attempt do return (← IO.FS.readBinFile path).toList

/-- Replaces the content of a file. -/
def writeFile (path : String) (content : Bytes) : IO (Except FileError Unit) :=
  attempt (IO.FS.writeBinFile path (ByteArray.mk content.toArray))

/-- The files below a directory. -/
def files (root : String) : FileSystem IO where
  read path := readFile (Path.join root path)
  stat path := attempt do
    let _ ← IO.FS.readBinFile (Path.join root path)
    return Disk.defaultMode
  write path content _ := writeFile (Path.join root path) content

/-- Documents are kept in files. -/
def storage : Storage IO where
  load := readFile
  save := writeFile

end Downstream.Main

/-- Runs the program with its arguments. -/
def main (arguments : List String) : IO UInt32 := do
  let filter ← IO.getEnv "RUST_LOG"
  let outcome ← Downstream.Cli.run Downstream.Main.files Downstream.Main.storage filter arguments
  IO.print outcome.output
  for line in outcome.log do
    IO.eprintln line
  IO.eprint outcome.errors
  return outcome.exit.toUInt32
