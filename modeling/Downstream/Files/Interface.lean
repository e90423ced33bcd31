import Downstream.Files.Error
import Downstream.Text.Utf8

/-!
# File systems

What a step of the program needs from where the files are: reading a whole file, its permission
bits, and replacing a file. A `FileSystem m` answers these calls in the monad `m`, which is input
and output when the program runs, and a state when one reasons about it. `FileSystem.traced` notes
every call, and `FileSystem.failing` makes some calls fail before they reach the files.
-/

namespace Downstream

/-- Permission bits. -/
abbrev Mode := Nat

/-- The calls that a file system answers. -/
structure FileSystem (m : Type → Type) where
  /-- The content of a file. -/
  read : (path : String) → m (Except FileError Bytes)
  /-- The permission bits of a file. -/
  stat : (path : String) → m (Except FileError Mode)
  /-- Replaces the content of a file and sets its permission bits. -/
  write : (path : String) → (content : Bytes) → (mode : Mode) → m (Except FileError Unit)

/-- A call of a file system. -/
inductive FileCall where
  | read (path : String)
  | stat (path : String)
  | write (path : String) (content : Bytes) (mode : Mode)
  deriving Repr, DecidableEq

namespace FileSystem

variable {σ : Type}

/-- Notes every call, the first one first, and passes it on. -/
def traced (fs : FileSystem (StateM σ)) : FileSystem (StateM (σ × List FileCall)) where
  read path := fun (s, calls) =>
    let (r, s) := fs.read path s
    (r, s, calls ++ [.read path])
  stat path := fun (s, calls) =>
    let (r, s) := fs.stat path s
    (r, s, calls ++ [.stat path])
  write path content mode := fun (s, calls) =>
    let (r, s) := fs.write path content mode s
    (r, s, calls ++ [.write path content mode])

/-- Makes the calls fail that `fault` says, without passing them on. -/
def failing {m : Type → Type} [Monad m] (fault : FileCall → Option FileError)
    (fs : FileSystem m) : FileSystem m where
  read path :=
    match fault (.read path) with
    | some e => pure (.error e)
    | none => fs.read path
  stat path :=
    match fault (.stat path) with
    | some e => pure (.error e)
    | none => fs.stat path
  write path content mode :=
    match fault (.write path content mode) with
    | some e => pure (.error e)
    | none => fs.write path content mode

end FileSystem

end Downstream
