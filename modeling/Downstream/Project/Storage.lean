import Downstream.Files.Disk
import Downstream.Project.Document

/-!
# Where project documents are kept

`Config.load` reads a project document from its file, and `Config.save` writes it there. A `Storage`
answers the calls that this takes; a file that is there keeps its permission bits.
-/

namespace Downstream

/-- Where documents are kept. -/
structure Storage (m : Type → Type) where
  /-- The content of a file. -/
  load : (path : String) → m (Except FileError Bytes)
  /-- Replaces the content of a file, or makes the file. -/
  save : (path : String) → (content : Bytes) → m (Except FileError Unit)

/-- Documents are kept on a disk. -/
def Disk.storage : Storage (StateM Disk) where
  load path := fun d => ((d.read path).mapError .system, d)
  save path content := fun d =>
    match d.write path content none with
    | .ok d => (.ok (), d)
    | .error k => (.error (.system k), d)

namespace Config

variable {m : Type → Type} [Monad m]

/-- Reads the document of a file from the file's content. -/
def ofContent (path : String) (content : Bytes) : Except ConfigError Config :=
  match Utf8.toString? content with
  | some text => parse path text
  | none => .error (.read path (.system .invalidData))

/-- Reads the document in a file. -/
def load (s : Storage m) (path : String) : m (Except ConfigError Config) := do
  match ← s.load path with
  | .ok content => return ofContent path content
  | .error e => return .error (.read path e)

/-- Writes a document to a file. The document is written as it is, even if it is not valid. -/
def save (s : Storage m) (path : String) (c : Config) : m (Except ConfigError Unit) := do
  return (← s.save path (Utf8.ofString c.text)).mapError (.write path)

end Config

end Downstream
