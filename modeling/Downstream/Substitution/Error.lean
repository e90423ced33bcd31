import Downstream.Files.Error

/-!
# Failures of substitutions
-/

namespace Downstream

/-- Why a substitution cannot be made. -/
inductive SubstitutionError where
  /-- The file at `path` cannot be read. -/
  | read (path : String) (cause : FileError)
  /-- The permission bits of the file at `path` cannot be found out. -/
  | stat (path : String) (cause : FileError)
  /-- The file at `path` cannot be written. -/
  | write (path : String) (cause : FileError)
  /-- The text of a pattern is no pattern. -/
  | badPattern (pattern : String)
  deriving Repr, DecidableEq

namespace SubstitutionError

/-- The text of a failure. -/
def message : SubstitutionError → String
  | read path _ => "error reading file for substitution: " ++ path
  | stat path _ => "error reading file info for substitution: " ++ path
  | write path _ => "error writing substituted file: " ++ path
  | badPattern pattern => "Invalid regex pattern in substitution: " ++ pattern

/-- The file that a failure is about. -/
def path? : SubstitutionError → Option String
  | read path _ => some path
  | stat path _ => some path
  | write path _ => some path
  | badPattern _ => none

/-- What made a file fail. -/
def cause? : SubstitutionError → Option FileError
  | read _ cause => some cause
  | stat _ cause => some cause
  | write _ cause => some cause
  | badPattern _ => none

end SubstitutionError

end Downstream
