/-!
# Failures of files

Why reading, examining or writing a file failed. A failure that the program itself raises has its
own text; a failure of the operating system has the system's text for its kind.
-/

namespace Downstream

namespace FileError

/-- Kinds of failures. -/
inductive Kind where
  | notFound
  | permissionDenied
  | interrupted
  | isADirectory
  | notADirectory
  | invalidData
  | other
  deriving Repr, DecidableEq

/-- The system's text for a failure of this kind. -/
def Kind.systemText : Kind → String
  | notFound => "No such file or directory (os error 2)"
  | permissionDenied => "Permission denied (os error 13)"
  | interrupted => "Interrupted system call (os error 4)"
  | isADirectory => "Is a directory (os error 21)"
  | notADirectory => "Not a directory (os error 20)"
  | invalidData => "stream did not contain valid UTF-8"
  | other => "other error"

end FileError

/-- A failure of a file. -/
structure FileError where
  kind : FileError.Kind
  /-- The text of a failure that the system did not raise. -/
  text : Option String := none
  deriving Repr, DecidableEq

namespace FileError

/-- The text of a failure. -/
def message (e : FileError) : String :=
  e.text.getD e.kind.systemText

/-- A failure raised by the system. -/
def system (k : Kind) : FileError :=
  ⟨k, none⟩

end FileError

end Downstream
