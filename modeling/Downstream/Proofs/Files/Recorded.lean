import Downstream.Files.Interface
import Downstream.Substitution.Error

/-!
# Records of what a file system was asked and what it answered

`FileSystem.recorded` passes every call on and notes it with its answer. An `Exchange` is such a
note; `Exchange.failure?` is the failure of a substitution that it leads to.
-/

namespace Downstream

/-- The kinds of calls. -/
inductive FileOperation where
  | read
  | stat
  | write
  deriving Repr, DecidableEq

/-- A call of a file system with its answer. -/
inductive Exchange where
  | read (path : String) (answer : Except FileError Bytes)
  | stat (path : String) (answer : Except FileError Mode)
  | write (path : String) (content : Bytes) (mode : Mode) (answer : Except FileError Unit)

namespace Exchange

/-- What was called, and for which path. -/
def target : Exchange → FileOperation × String
  | read path _ => (.read, path)
  | stat path _ => (.stat, path)
  | write path _ _ _ => (.write, path)

/-- The failure that an exchange leads to, with the path as it was passed and the cause as it was
answered; none if the call succeeded. -/
def failure? : Exchange → Option SubstitutionError
  | read path (.error e) => some (.read path e)
  | stat path (.error e) => some (.stat path e)
  | write path _ _ (.error e) => some (.write path e)
  | _ => none

end Exchange

/-- Passes every call on, and notes it with its answer, the first one first. -/
def FileSystem.recorded {σ : Type} (fs : FileSystem (StateM σ)) :
    FileSystem (StateM (σ × List Exchange)) where
  read path := fun (s, log) =>
    let (answer, s) := fs.read path s
    (answer, s, log ++ [.read path answer])
  stat path := fun (s, log) =>
    let (answer, s) := fs.stat path s
    (answer, s, log ++ [.stat path answer])
  write path content mode := fun (s, log) =>
    let (answer, s) := fs.write path content mode s
    (answer, s, log ++ [.write path content mode answer])

end Downstream
