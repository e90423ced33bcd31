import Downstream.Dict
import Downstream.Files.Interface
import Downstream.Files.Path

/-!
# Files on a disk

A tree of directories and regular files, seen from one directory in it, the `home`, which relative
paths start from. A path is walked from left to right: what it goes through must be a directory,
`..` goes back, but not beyond the top of the tree, and a slash at the end asks for a directory.
`Disk.fileSystem` offers the files below some directory of the tree, and `Disk.homeFiles` lists
those below the home.
-/

namespace Downstream

/-- A regular file on disk. -/
structure DiskFile where
  content : Bytes
  mode : Mode
  deriving Repr, DecidableEq

/-- A tree of files. Files and directories are known by the names on the way to them, joined with
slashes. -/
structure Disk where
  /-- The names on the way to the directory that relative paths start from. -/
  home : List String := []
  files : Dict String DiskFile := []
  /-- Directories that there are beside those that files lie in. -/
  directories : List String := []
  deriving Repr, DecidableEq

namespace Disk

/-- The permission bits of a file that is new. -/
def defaultMode : Mode := 0o644

/-- The permission bits of a directory. -/
def directoryMode : Mode := 0o755

/-- The bits of a mode that are permissions. -/
def permissions (mode : Mode) : Mode := mode % 0o10000

/-- What is at a place of the tree. -/
inductive Entry where
  | file (f : DiskFile)
  | directory
  deriving Repr

/-- Names on the way to a place, joined with slashes. -/
def place (names : List String) : String :=
  String.intercalate "/" names

/-- Whether a path leads to `dir` or through it. -/
def leadsThrough (dir path : String) : Bool :=
  (dir.toList ++ ['/']).isPrefixOf path.toList

/-- What is at a place of the tree. -/
def entry? (d : Disk) (names : List String) : Option Entry :=
  let at_ := place names
  if names.isPrefixOf d.home then some .directory
  else
    match Dict.find? at_ d.files with
    | some f => some (.file f)
    | none =>
      if d.directories.any (fun dir => dir = at_ || leadsThrough at_ dir) ||
          d.files.keys.any (leadsThrough at_) then
        some .directory
      else none

/-- The failure of going on at a place that is no directory. -/
def obstacle? (d : Disk) (names : List String) : Option FileError.Kind :=
  match d.entry? names with
  | some .directory => none
  | some (.file _) => some .notADirectory
  | none => some .notFound

/-- Walks along the parts of a path from a place. The place it ends at need not exist. -/
def walk (d : Disk) : (names : List String) → (parts : List (List Char)) →
    Except FileError.Kind (List String)
  | names, [] => .ok names
  | names, part :: parts =>
    match d.obstacle? names with
    | some k => .error k
    | none =>
      if part = [] ∨ part = ['.'] then walk d names parts
      else if part = ['.', '.'] then walk d names.dropLast parts
      else walk d (names ++ [String.ofList part]) parts

/-- The names on the way to the directory that a path starts from. -/
def base (d : Disk) (path : String) : List String :=
  if Path.isAbsolute path then [] else d.home

/-- What a path leads to. -/
def resolve (d : Disk) (path : String) : Except FileError.Kind Entry := do
  if path.isEmpty then throw .notFound
  let names ← d.walk (d.base path) (Path.slashParts path)
  match d.entry? names with
  | some e => return e
  | none => throw .notFound

/-- The names on the way to the file that a path asks to be written. A path that ends with a slash
or with a dot asks for a directory. -/
def target (d : Disk) (path : String) : Except FileError.Kind (List String) := do
  if path.isEmpty then throw .notFound
  let parts := Path.slashParts path
  let last := parts.getLastD []
  let names ← d.walk (d.base path)
    (if last = [] then (parts.reverse.dropWhile (· = [])).reverse else parts)
  match d.entry? names with
  | some .directory => throw .isADirectory
  | _ => if last = [] then throw .isADirectory else return names

/-- The content of the file at a path. -/
def read (d : Disk) (path : String) : Except FileError.Kind Bytes := do
  match ← d.resolve path with
  | .file f => return f.content
  | .directory => throw .isADirectory

/-- The permission bits of what a path leads to. -/
def stat (d : Disk) (path : String) : Except FileError.Kind Mode := do
  match ← d.resolve path with
  | .file f => return f.mode
  | .directory => return directoryMode

/-- Replaces the content of the file at a path, or makes the file. The permission bits are those
given, or those the file had. -/
def write (d : Disk) (path : String) (content : Bytes) (mode : Option Mode) :
    Except FileError.Kind Disk := do
  let names ← d.target path
  let former := match d.entry? names with
    | some (.file f) => f.mode
    | _ => defaultMode
  let f : DiskFile := ⟨content, (mode.map permissions).getD former⟩
  return { d with files := Dict.insert (place names) f d.files }

/-- The names on the way to a place below the home, which a path without `..` leads to. -/
def namesBelowHome (d : Disk) (path : String) : List String :=
  d.home ++ (Path.slashParts path).filterMap fun part =>
    if part = [] ∨ part = ['.'] then none else some (String.ofList part)

/-- Adds a directory with those it lies in. -/
def addDirectory (d : Disk) (path : String) : Disk :=
  { d with directories := place (d.namesBelowHome path) :: d.directories }

/-- Adds a file with the directories it lies in. -/
def addFile (d : Disk) (path : String) (f : DiskFile) : Disk :=
  { d with files := Dict.insert (place (d.namesBelowHome path)) f d.files }

/-- What is left of a place after the way to a directory, `none` if it does not lie there. -/
def placeBelow? (directory : List String) (at_ : String) : Option String :=
  if directory.isEmpty then some at_
  else if leadsThrough (place directory) at_ then
    some (String.ofList (at_.toList.drop ((place directory).toList.length + 1)))
  else none

/-- The files below the home with the paths that lead to them, in ascending order. -/
def homeFiles (d : Disk) : List (String × DiskFile) :=
  d.files.filterMap fun (at_, f) => (placeBelow? d.home at_).map (·, f)

/-- The file system of the files below a directory. -/
def fileSystem (root : String) : FileSystem (StateM Disk) where
  read path := fun d => ((d.read (Path.join root path)).mapError .system, d)
  stat path := fun d => ((d.stat (Path.join root path)).mapError .system, d)
  write path content mode := fun d =>
    match d.write (Path.join root path) content (some mode) with
    | .ok d => (.ok (), d)
    | .error k => (.error (.system k), d)

end Disk

end Downstream
