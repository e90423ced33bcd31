import Downstream.Files.Error
import Downstream.Text.Quoted

/-!
# Failures of project documents

Why a project document cannot be read, written or given settings. A document that cannot be read has
a `Fault`: it is malformed, or it says something of the wrong kind.
-/

namespace Downstream

/-- What a field of a project document must be. -/
inductive Shape where
  | string
  | sequence
  | map
  deriving Repr, DecidableEq

/-- What a field must be, in words. -/
def Shape.text : Shape → String
  | string => "a string"
  | sequence => "a sequence"
  | map => "a map"

/-- Why a text is no project document. -/
inductive Fault where
  /-- The text is no document of the format, or a number in it is out of range. -/
  | malformed
  /-- A field must be there and is not. -/
  | missing (field : String)
  /-- A field is something else than it must be. -/
  | mistyped (found : String) (expected : Shape)
  deriving Repr, DecidableEq

/-- The text of a fault, `none` where the text is not ours to say. -/
def Fault.message? : Fault → Option String
  | malformed => none
  | missing field => some ("missing field `" ++ field ++ "`")
  | mistyped found expected => some ("invalid type: " ++ found ++ ", expected " ++ expected.text)

/-- Why something cannot be done with a project document. -/
inductive ConfigError where
  /-- Documents of this version do not have the field. -/
  | unsupportedField (version field : String)
  /-- There is no such version. -/
  | unsupportedVersion (version : String)
  /-- The settings for this key cannot be put into a document. -/
  | encode (key : String)
  /-- The document cannot be written as a text. -/
  | serialize (path : String)
  /-- The file of the document cannot be read. -/
  | read (path : String) (cause : FileError)
  /-- The file of the document cannot be written. -/
  | write (path : String) (cause : FileError)
  /-- The text is no project document. -/
  | parse (path : String) (fault : Fault)
  deriving Repr, DecidableEq

namespace ConfigError

/-- The text of a failure. -/
def message : ConfigError → String
  | unsupportedField version field =>
    "field " ++ Quoted.text field ++ " is not supported by project config version " ++ version
  | unsupportedVersion version => "Unsupported project config version: " ++ version
  | encode key => "Failed to encode plugin config for " ++ key
  | serialize path => "Failed to serialize project config: " ++ path
  | read path _ => "Failed to read project config: " ++ path
  | write path _ => "Failed to write project config: " ++ path
  | parse path _ => "Failed to parse project config: " ++ path

/-- Whether the document has no place for a field. -/
def isUnsupportedField : ConfigError → Bool
  | unsupportedField .. => true
  | _ => false

end ConfigError

end Downstream
