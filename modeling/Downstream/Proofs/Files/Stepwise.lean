import Downstream.Proofs.Files.Disk

/-!
# Writing a file on a disk in two steps

A file on a disk is written in two steps: first its content, which leaves it the permission bits it
has, or gives a new file the usual ones, and then the permission bits, at the same path
(`Disk.setMode`). The file that was written is what the path leads to (`walk_put`,
`entry?_put_self`), so that the second step never fails, and both do what `Disk.write` does at once
(`write_eq_setMode`). Hence a file system that takes the two steps is `Disk.fileSystem`
(`stepwise_eq`).
-/

namespace Downstream.Disk

variable {d : Disk} {path : String} {start names other : List String} {f : DiskFile}

/-- Sets the permission bits of the file at a path. Those of a directory are not kept. -/
def setMode (d : Disk) (path : String) (mode : Mode) : Except FileError.Kind Disk := do
  if path.isEmpty then throw .notFound
  let names ← d.walk (d.base path) (Path.slashParts path)
  match d.entry? names with
  | some (.file f) => return d.put (place names) { f with mode := permissions mode }
  | some .directory => return d
  | none => throw .notFound

/-- The file system of the files below a directory, where writing takes two steps, each of which can
fail: the content is written, and then the permission bits are set. -/
def stepwise (root : String) : FileSystem (StateM Disk) where
  read := (fileSystem root).read
  stat := (fileSystem root).stat
  write path content mode := fun d =>
    match d.write (Path.join root path) content none with
    | .error k => (.error (.system k), d)
    | .ok d =>
      match d.setMode (Path.join root path) mode with
      | .error k => (.error (.system k), d)
      | .ok d => (.ok (), d)

/-! ## After the first step -/

theorem put_put (d : Disk) (at_ : String) (f g : DiskFile) :
    (d.put at_ f).put at_ g = d.put at_ g := by
  simp only [put, Dict.insert_insert String.lt_irrefl]

/-- The place of a file that can be written is reached along the path, and is no directory. -/
theorem of_target (h : d.target path = .ok names) :
    path.isEmpty = false ∧ d.walk (d.base path) (Path.slashParts path) = .ok names ∧
      d.entry? names ≠ some .directory := by
  simp only [target, bind, Except.bind] at h
  split at h
  · cases h
  next hempty =>
  split at h
  · cases h
  next names' hwalk =>
  split at h
  · cases h
  next hentry =>
  split at h
  · cases h
  next hlast =>
    cases h
    rw [if_neg hlast] at hwalk
    exact ⟨by simpa using hempty, hwalk, hentry⟩

theorem entry?_put_self (h : d.entry? names ≠ some .directory) (f : DiskFile) :
    entry? (d.put (place names) f) names = some (.file f) := by
  have hhome : ¬names.isPrefixOf d.home = true := fun hhome => h (by simp [ entry?, hhome])
  simp [ entry?, put, hhome, Dict.find?_insert_self]

/-- Off the way home, what is at a place depends on the place only, not on the names. -/
theorem entry?_eq_directory_iff (hhome : ¬names.isPrefixOf d.home = true) :
    d.entry? names = some .directory ↔ d.file? (place names) = none ∧
      ((∃ dir ∈ d.directories, dir = place names ∨ leadsThrough (place names) dir = true) ∨
        ∃ at_ ∈ Dict.keys d.files, leadsThrough (place names) at_ = true) := by
  simp only [ entry?, hhome, Bool.false_eq_true, if_false, file?]
  cases Dict.find? (place names) d.files with
  | none =>
    simp only [Option.ite_none_right_eq_some, Bool.or_eq_true, List.any_eq_true, decide_eq_true_eq,
      and_true, true_and]
  | some f => simp

theorem mem_keys_put {at_ at' : String} (h : at_ ∈ Dict.keys d.files) (f : DiskFile) :
    at_ ∈ Dict.keys (d.put at' f).files := by
  rw [← Dict.isSome_find?_iff] at h ⊢
  by_cases heq : at_ = at'
  · rw [heq, put, Dict.find?_insert_self]
    rfl
  · rwa [put, Dict.find?_insert_of_ne heq]

/-- A file that is written takes the place of no directory. -/
theorem entry?_put_directory (h : d.entry? names ≠ some .directory)
    (hother : d.entry? other = some .directory) (f : DiskFile) :
    entry? (d.put (place names) f) other = some .directory := by
  by_cases hhome : other.isPrefixOf d.home = true
  · simp [ entry?, put, hhome]
  have hnames : ¬names.isPrefixOf d.home = true := fun hnames => h (by simp [ entry?, hnames])
  obtain ⟨hnone, hthrough⟩ := (entry?_eq_directory_iff hhome).1 hother
  -- Off the way home a place is one thing for all ways to it, so it is no directory's.
  have hplace : place other ≠ place names := fun hplace =>
    h ((entry?_eq_directory_iff hnames).2 (hplace ▸ ⟨hnone, hthrough⟩))
  refine (entry?_eq_directory_iff (d := d.put (place names) f) hhome).2 ⟨?_, hthrough.imp_right ?_⟩
  · rw [file?_put_of_ne hplace, hnone]
  · rintro ⟨at_, hat, hbelow⟩
    exact ⟨at_, mem_keys_put hat f, hbelow⟩

theorem obstacle?_eq_none_iff : d.obstacle? names = none ↔ d.entry? names = some .directory := by
  unfold obstacle?
  split <;> simp_all

/-- A path leads to the same place after a file was written where no directory is. -/
theorem walk_put (h : d.entry? names ≠ some .directory) (f : DiskFile) {parts : List (List Char)}
    {ends : List String} (hwalk : d.walk start parts = .ok ends) :
    (d.put (place names) f).walk start parts = .ok ends := by
  induction parts generalizing start with
  | nil => exact hwalk
  | cons part parts ih =>
    simp only [walk] at hwalk ⊢
    cases hobstacle : d.obstacle? start with
    | some k => simp [hobstacle] at hwalk
    | none =>
      have hkept : (d.put (place names) f).obstacle? start = none :=
        obstacle?_eq_none_iff.2 (entry?_put_directory h (obstacle?_eq_none_iff.1 hobstacle) f)
      simp only [hobstacle] at hwalk
      simp only [hkept]
      by_cases hhere : part = [] ∨ part = ['.']
      · rw [if_pos hhere] at hwalk ⊢
        exact ih hwalk
      · rw [if_neg hhere] at hwalk ⊢
        by_cases hback : part = ['.', '.']
        · rw [if_pos hback] at hwalk ⊢
          exact ih hwalk
        · rw [if_neg hback] at hwalk ⊢
          exact ih hwalk

/-! ## Both steps -/

/-- What is written has the permission bits that are given, or those there were before. -/
theorem exists_write_eq (h : d.target path = .ok names) (content : Bytes) :
    ∃ former, ∀ mode : Option Mode, d.write path content mode =
      .ok (d.put (place names) ⟨content, (mode.map permissions).getD former⟩) := by
  rcases hentry : d.entry? names with _ | f | _
  · exact ⟨defaultMode, fun mode => by
      simp only [write, h, hentry, bind, Except.bind, pure, Except.pure, put]⟩
  · exact ⟨f.mode, fun mode => by
      simp only [write, h, hentry, bind, Except.bind, pure, Except.pure, put]⟩
  · exact absurd hentry (of_target h).2.2

/-- The permission bits of a file that was just written are set. -/
theorem setMode_put (h : d.target path = .ok names) (f : DiskFile) (mode : Mode) :
    (d.put (place names) f).setMode path mode =
      .ok (d.put (place names) { f with mode := permissions mode }) := by
  obtain ⟨hempty, hwalk, hentry⟩ := of_target h
  have hbase : (d.put (place names) f).base path = d.base path := rfl
  simp only [setMode, hempty, hbase, walk_put hentry f hwalk, entry?_put_self hentry f, bind,
    Except.bind, pure, Except.pure, put_put, Bool.false_eq_true, if_false]

/-- **Writing a file with its permission bits is writing it and then setting them.** -/
theorem write_eq_setMode (d : Disk) (path : String) (content : Bytes) (mode : Mode) :
    d.write path content (some mode) = (d.write path content none).bind (·.setMode path mode) := by
  cases htarget : d.target path with
  | error k => simp [write, htarget, bind, Except.bind]
  | ok names =>
    obtain ⟨former, hwrite⟩ := exists_write_eq htarget content
    rw [hwrite, hwrite, Except.bind, setMode_put htarget]
    rfl

/-- The second step succeeds, where the first one did. -/
theorem exists_setMode_eq_ok {d' : Disk} {content : Bytes} (h : d.write path content none = .ok d')
    (mode : Mode) : ∃ d'', d'.setMode path mode = .ok d'' := by
  cases htarget : d.target path with
  | error k => simp [write, htarget, bind, Except.bind] at h
  | ok names =>
    obtain ⟨former, hwrite⟩ := exists_write_eq htarget content
    rw [hwrite] at h
    cases h
    exact ⟨_, setMode_put htarget _ mode⟩

/-- **Taking two steps to write makes no difference.** -/
theorem stepwise_eq (root : String) : stepwise root = fileSystem root := by
  simp only [stepwise, fileSystem, FileSystem.mk.injEq, true_and]
  funext path content mode d
  rw [write_eq_setMode]
  cases hfirst : d.write (Path.join root path) content none with
  | error k => rfl
  | ok d' =>
    obtain ⟨d'', hsecond⟩ := exists_setMode_eq_ok hfirst mode
    simp only [Except.bind, hsecond]

end Downstream.Disk
