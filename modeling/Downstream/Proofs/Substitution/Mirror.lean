import Downstream.Proofs.Files.Mirror
import Downstream.Proofs.Files.Stepwise
import Downstream.Proofs.Substitution.Disk

/-!
# Substituting on a disk and in memory

Runs over the files below a directory on a disk and over their mirror in memory cannot be told
apart, except by what the failures say (`Disk.RunsAlike`).

* About one file the same calls are made, and the mirror stays one (`substitute_mirrored`): a file
  that is missing in memory cannot be read on the disk, whether there is nothing, a directory, or a
  file in the place of a directory on the way.
* Runs are alike entry by entry (`RunsAlike.trans`), so they are by induction
  (`substituteAll_mirrored`).
-/

namespace Downstream

variable {path root : String} {calls : List FileCall}

/-! ## One file in memory -/

theorem Memory.substitute_of_missing {m : Memory} (h : m.file? path = none) (rules : List Rule)
    (calls : List FileCall) :
    substitute Memory.fileSystem.traced path rules (m, calls) =
      ((.error (.read path (missing path)), []), m, calls ++ [.read path]) := by
  simp only [substitute, bind, StateT.bind, FileSystem.traced, read_of_missing h]
  rfl

theorem Memory.substitute_of_file? {m : Memory} {f : MemoryFile} (h : m.file? path = some f)
    (hwritable : m.readOnly = false) (rules : List Rule) (calls : List FileCall) :
    let content := applyRules rules f.content
    substitute Memory.fileSystem.traced path rules (m, calls) =
      ((.ok (), ruleEvents path rules f.content ++ [.rewrote path f.mode]),
        m.insert path content f.mode,
        calls ++ [.read path] ++ [.stat path] ++ [.write path content f.mode]) := by
  simp only [substitute, bind, StateT.bind, FileSystem.traced, read_of_file? h, stat_of_file? h,
    write_of_writable hwritable]
  rfl

namespace Disk

variable {d d' : Disk} {m m' : Memory} {names : List String} {f : DiskFile}

/-! ## One file on a disk -/

theorem substitute_of_unreadable {k : FileError.Kind}
    (h : d.read (Path.join root path) = .error k) (rules : List Rule) (calls : List FileCall) :
    substitute (fileSystem root).traced path rules (d, calls) =
      ((.error (.read path (.system k)), []), d, calls ++ [.read path]) := by
  simp only [substitute, bind, StateT.bind, FileSystem.traced, fileSystem, h]
  rfl

theorem Leads.substitute (h : d.Leads (Path.join root path) names f) (hplain : Plain path)
    (hmode : permissions f.mode = f.mode) (rules : List Rule) (calls : List FileCall) :
    let content := applyRules rules f.content
    substitute (fileSystem root).traced path rules (d, calls) =
      ((.ok (), ruleEvents path rules f.content ++ [.rewrote path f.mode]),
        d.put (place names) ⟨content, f.mode⟩,
        calls ++ [.read path] ++ [.stat path] ++ [.write path content f.mode]) := by
  have hread : (fileSystem root).read path d = (.ok f.content, d) := by
    simp only [fileSystem, read_eq_ok_iff.2 ⟨names, f, h, rfl⟩]
    rfl
  have hstat : (fileSystem root).stat path d = (.ok f.mode, d) := by
    simp only [fileSystem, stat_of_leads h]
    rfl
  have hwrite : ∀ content, (fileSystem root).write path content f.mode d =
      (.ok (), d.put (place names) ⟨content, f.mode⟩) := by
    intro content
    simp only [fileSystem, write_of_leads h (hplain.namesFile_join root), Option.map_some,
      Option.getD_some, hmode]
  simp only [Downstream.substitute, bind, StateT.bind, FileSystem.traced, hread, hstat, hwrite]
  rfl

/-! ## Runs alike -/

/-- A place that does not lie below a directory. If there is no such directory, no place does. -/
def Outside (d : Disk) (root at_ : String) : Prop :=
  ∀ directory, d.walk (d.base root) (Path.slashParts root) = .ok directory →
    placeBelow? directory at_ = none

theorem SameTree.outside_iff (h : SameTree d d') (root at_ : String) :
    d'.Outside root at_ ↔ d.Outside root at_ := by
  simp only [Outside, base, h.home, h.walk]

theorem Leads.ne_of_outside (h : d.Leads (Path.join root path) names f) (hplain : Plain path)
    {at_ : String} (hat : d.Outside root at_) : at_ ≠ place names := by
  rintro rfl
  obtain ⟨directory, hwalk, hbelow⟩ := placeBelow?_of_place?_join hplain h.place?
  rw [hat directory hwalk] at hbelow
  cases hbelow

/-- A run over files below a directory on a disk, and one over files in memory, which end in the
same way: the same calls were made, the same events were told, both succeed or both fail to read the
same file, and the files in memory mirror those on the disk. Outside the directory nothing
changed. -/
structure RunsAlike (d : Disk) (root : String)
    (run : (Except SubstitutionError Unit × List Event) × (Disk × List FileCall))
    (run' : (Except SubstitutionError Unit × List Event) × (Memory × List FileCall)) : Prop where
  result : run.1.1 = .ok () ∧ run'.1.1 = .ok () ∨
    ∃ path e e', run.1.1 = .error (.read path e) ∧ run'.1.1 = .error (.read path e')
  events : run.1.2 = run'.1.2
  calls : run.2.2 = run'.2.2
  mirrored : run.2.1.Mirrored root run'.2.1
  tree : SameTree d run.2.1
  permissions : run.2.1.KeepsPermissions
  outside : ∀ at_, d.Outside root at_ → run.2.1.file? at_ = d.file? at_

/-- A run that goes on where another one succeeded. -/
theorem RunsAlike.trans {events events' more more' : List Event} {calls' : List FileCall}
    {result result' : Except SubstitutionError Unit} {s : Disk × List FileCall}
    {s' : Memory × List FileCall}
    (h : d.RunsAlike root ((.ok (), events), d', calls) ((.ok (), events'), m', calls'))
    (hrest : d'.RunsAlike root ((result, more), s) ((result', more'), s')) :
    d.RunsAlike root ((result, events ++ more), s) ((result', events' ++ more'), s') where
  result := hrest.result
  events := congrArg₂ (· ++ ·) h.events hrest.events
  calls := hrest.calls
  mirrored := hrest.mirrored
  tree := h.tree.trans hrest.tree
  permissions := hrest.permissions
  outside at_ hat :=
    (hrest.outside at_ ((h.tree.outside_iff root at_).2 hat)).trans (h.outside at_ hat)

/-- Substituting in one file, on the disk and in its mirror. -/
theorem substitute_mirrored (h : d.Mirrored root m) (hplain : Plain path)
    (hmodes : d.KeepsPermissions) (rules : List Rule) (calls : List FileCall) :
    d.RunsAlike root (substitute (fileSystem root).traced path rules (d, calls))
      (substitute Memory.fileSystem.traced path rules (m, calls)) := by
  cases hf : m.file? path with
  | none =>
    obtain ⟨k, hread⟩ := h.missing hplain hf
    rw [substitute_of_unreadable hread, Memory.substitute_of_missing hf]
    exact ⟨.inr ⟨path, _, _, rfl, rfl⟩, rfl, rfl, h, .refl d, hmodes, fun _ _ => rfl⟩
  | some mf =>
    obtain ⟨names, hleads⟩ := h.leads hplain hf
    have hmode : permissions mf.onDisk.mode = mf.onDisk.mode := hmodes.of_file? hleads.file?
    rw [hleads.substitute hplain hmode, Memory.substitute_of_file? hf h.writable]
    exact ⟨.inl ⟨rfl, rfl⟩, rfl, rfl, h.put hplain hleads _ _,
      sameTree_put (by simp [hleads.file?]) _, hmodes.put hmode,
      fun at_ hat => file?_put_of_ne (hleads.ne_of_outside hplain hat) d _⟩

/-- **Runs over a disk and over its mirror are alike**, entry by entry. -/
theorem substituteAll_mirrored {entries : List (String × List Rule)} (h : d.Mirrored root m)
    (hplain : ∀ e ∈ entries, Plain e.1) (hmodes : d.KeepsPermissions) (calls : List FileCall) :
    d.RunsAlike root (substituteAll (fileSystem root).traced entries (d, calls))
      (substituteAll Memory.fileSystem.traced entries (m, calls)) := by
  induction entries generalizing d m calls with
  | nil => exact ⟨.inl ⟨rfl, rfl⟩, rfl, rfl, h, .refl d, hmodes, fun _ _ => rfl⟩
  | cons e rest ih =>
    obtain ⟨path, rules⟩ := e
    obtain ⟨hfirst, hrest⟩ := List.forall_mem_cons.1 hplain
    have hone := substitute_mirrored h hfirst hmodes rules calls
    rcases hrun : substitute (fileSystem root).traced path rules (d, calls) with
      ⟨⟨result, events⟩, d', calls'⟩
    rcases hrun' : substitute Memory.fileSystem.traced path rules (m, calls) with
      ⟨⟨result', events'⟩, m', calls''⟩
    rw [hrun, hrun'] at hone
    obtain rfl : calls' = calls'' := hone.calls
    simp only [substituteAll, bind, StateT.bind, hrun, hrun']
    obtain ⟨hok, hok'⟩ | ⟨path', e, e', herr, herr'⟩ := hone.result
    -- Both go on from what the first file left, which is a disk and its mirror again.
    · obtain rfl : result = .ok () := hok
      obtain rfl : result' = .ok () := hok'
      exact hone.trans (ih hone.mirrored hrest hone.permissions calls')
    · obtain rfl : result = .error (.read path' e) := herr
      obtain rfl : result' = .error (.read path' e') := herr'
      exact hone

/-- **A disk and files in memory that mirror it are interchangeable.** On the disk the content of a
file and its permission bits are written one after the other, which makes no difference. The files
below every directory have a mirror in memory, and every run over them and over any mirror of them
makes the same calls, tells the same events, ends in the same way, and leaves a mirror. Nothing
outside the directory changes. -/
theorem replaceImages_mirrored {t : Table} (hplain : ∀ path ∈ t.paths, Plain path)
    (hmodes : d.KeepsPermissions) (root : String) :
    stepwise root = fileSystem root ∧ d.Mirrored root (d.mirror root) ∧
      ∀ m, d.Mirrored root m →
        d.RunsAlike root (replaceImages (fileSystem root).traced t (d, []))
          (replaceImages Memory.fileSystem.traced t (m, [])) :=
  ⟨stepwise_eq root, mirrored_mirror d root, fun _ h =>
    substituteAll_mirrored h (fun _ he => hplain _ (List.mem_map_of_mem he)) hmodes []⟩

/-- A file in the place of a directory stops both runs at the file behind it, which on the disk is
`notADirectory` and in memory missing. -/
theorem replaceImages_mirrored_blocked :
    let rules := [(⟨"x", .octet (.single 0x78), "xy"⟩ : Rule)]
    let t := (Table.empty.insert "a" rules).insert "b/c" rules
    let d : Disk := { files := [("p/a", ⟨[0x78], 0o4600⟩), ("p/b", ⟨[0x78], 0o644⟩)] }
    let run := replaceImages Memory.fileSystem.traced t (d.mirror "p", [])
    (∀ path ∈ t.paths, Plain path) ∧ d.KeepsPermissions ∧
      (∃ e, run.1.1 = .error (.read "b/c" e)) ∧
      run.2.2 = [.read "a", .stat "a", .write "a" [0x78, 0x79] 0o4600, .read "b/c"] ∧
      (run.2.1.file? "a").map MemoryFile.onDisk = some ⟨[0x78, 0x79], 0o4600⟩ := by
  intro rules t d run
  have hplain : ∀ path ∈ t.paths, Plain path := by decide
  have hmodes : d.KeepsPermissions := by decide
  obtain ⟨-, hmirror, hruns⟩ := replaceImages_mirrored hplain hmodes "p"
  have halike := hruns _ hmirror
  have hdisk : Id.run (replaceImages (fileSystem "p").traced t (d, [])) =
      ((.error (.read "b/c" (.system .notADirectory)),
          [.applied "a" "x" "xy", .rewrote "a" 0o4600]),
        d.put "p/a" ⟨[0x78, 0x79], 0o4600⟩,
        [.read "a", .stat "a", .write "a" [0x78, 0x79] 0o4600, .read "b/c"]) := by
    decide +kernel
  rw [show replaceImages (fileSystem "p").traced t (d, []) = _ from hdisk] at halike
  refine ⟨hplain, hmodes, ?_, halike.calls.symm, ?_⟩
  · obtain ⟨hok, -⟩ | ⟨path, e, e', herr, herr'⟩ := halike.result
    · cases hok
    · cases herr
      exact ⟨e', herr'⟩
  · rw [halike.mirrored.files "a" (by decide)]
    decide

end Disk

end Downstream
