import Downstream.Dict
import Downstream.Files.Interface
import Downstream.Files.Path

/-!
# Files in memory

A file system that holds its files by the components of their paths, so that all spellings of a
path denote one file. The files are listed in the order of their components (`Memory.ordered`), each
under the spelling it was first given (`Memory.keyed`).
-/

namespace Downstream

/-- A file in memory. -/
structure MemoryFile where
  /-- The path as it was first written. -/
  path : String
  content : Bytes
  mode : Mode
  deriving Repr, DecidableEq

/-- Files in memory. -/
structure Memory where
  files : Dict (List Path.Component) MemoryFile := []
  /-- Whether writing is refused. -/
  readOnly : Bool := false
  ordered : files.Ordered := by exact List.Pairwise.nil
  /-- Each file is held by the components of the path it is listed under. -/
  keyed : ∀ e ∈ files, e.1 = Path.components e.2.path := by exact fun _ h => nomatch h
  deriving Repr, DecidableEq

namespace Memory

/-- The file that a path denotes. -/
def file? (m : Memory) (path : String) : Option MemoryFile :=
  Dict.find? (Path.components path) m.files

/-- The path that the file at a path is listed under, once it is there. -/
def listedPath (m : Memory) (path : String) : String :=
  match m.file? path with
  | some f => f.path
  | none => path

theorem components_listedPath (m : Memory) (path : String) :
    Path.components (m.listedPath path) = Path.components path := by
  unfold listedPath
  cases h : m.file? path with
  | none => rfl
  | some f => exact (m.keyed _ (Dict.mem_of_find? h)).symm

/-- Adds or replaces a file, also where writing is refused. A file that is replaced stays listed
under the path it was first given. -/
def insert (m : Memory) (path : String) (content : Bytes) (mode : Mode) : Memory where
  files := Dict.insert (Path.components path) ⟨m.listedPath path, content, mode⟩ m.files
  readOnly := m.readOnly
  ordered := Dict.ordered_insert (fun _ _ _ => List.lt_trans) Path.lt_total _ _ m.ordered
  keyed := by
    intro e he
    rcases Dict.mem_insert he with rfl | he
    · exact (m.components_listedPath path).symm
    · exact m.keyed e he

/-- Refuses writing from now on, or no longer. -/
def setReadOnly (m : Memory) (value : Bool) : Memory :=
  { m with readOnly := value }

/-- The content of a file. -/
def content? (m : Memory) (path : String) : Option Bytes :=
  (m.file? path).map (·.content)

/-- The content of a file as text. -/
def text? (m : Memory) (path : String) : Option String :=
  (m.content? path).bind Utf8.toString?

/-- The permission bits of a file. -/
def mode? (m : Memory) (path : String) : Option Mode :=
  (m.file? path).map (·.mode)

/-- The files, in the order of their paths. -/
def list (m : Memory) : List MemoryFile :=
  m.files.map Prod.snd

/-- The paths of the files, in order. -/
def paths (m : Memory) : List String :=
  m.list.map (·.path)

/-- The failure of a path that denotes no file. -/
def missing (path : String) : FileError :=
  ⟨.notFound, some ("file does not exist: " ++ path)⟩

/-- The failure of writing where it is refused. -/
def refused (path : String) : FileError :=
  ⟨.permissionDenied, some ("read-only filesystem: " ++ path)⟩

/-- The file system of files in memory. -/
def fileSystem : FileSystem (StateM Memory) where
  read path := fun m => ((m.content? path).elim (.error (missing path)) .ok, m)
  stat path := fun m => ((m.mode? path).elim (.error (missing path)) .ok, m)
  write path content mode := fun m =>
    if m.readOnly then (.error (refused path), m)
    else (.ok (), m.insert path content mode)

end Memory

end Downstream
