import Downstream.Proofs.Files.Disk
import Downstream.Proofs.Files.History
import Mathlib.Data.List.Basic

/-!
# Files in memory that mirror those on a disk

Files in memory mirror the files below a directory on a disk if they are the same, under the paths
from the directory to them (`Disk.Mirrored`). There is a mirror of the files below every directory
(`Disk.mirrored_mirror`), and it stays one when a file is written on both sides (`Mirrored.put`).

This rests on plain paths, which have one spelling each (`Plain.same_iff`).
-/

namespace Downstream

/-- What a file in memory is on a disk, where it does not know its path. -/
def MemoryFile.onDisk (f : MemoryFile) : DiskFile :=
  ⟨f.content, f.mode⟩

theorem Memory.readOnly_putAll (m : Memory) (files : List MemoryFile) :
    (m.putAll files).readOnly = m.readOnly := by
  induction files generalizing m with
  | nil => rfl
  | cons f files ih => exact ih (m.insert f.path f.content f.mode)

theorem Memory.path_mem_paths {m : Memory} {path : String} {f : MemoryFile}
    (h : m.file? path = some f) : f.path ∈ m.paths := by
  rw [paths, list, List.map_map]
  exact List.mem_map.2 ⟨_, Dict.mem_of_find? h, rfl⟩

namespace Disk

variable {d : Disk} {root path path' : String} {names : List String} {m : Memory}
  {f : DiskFile} {mf : MemoryFile}

/-! ## Plain paths -/

theorem component?_of_onward {part : List Char}
    (h : part ≠ [] ∧ part ≠ ['.'] ∧ part ≠ ['.', '.']) :
    Path.component? part = some (.name (String.ofList part)) := by
  obtain ⟨hempty, hhere, hback⟩ := h
  rw [Path.component?]
  · exact hempty
  · exact hhere
  · exact hback

/-- All parts of a plain path are names. -/
theorem Plain.components (h : Plain path) :
    Path.components path = (Path.slashParts path).map fun part => .name (String.ofList part) := by
  obtain ⟨part, parts, hparts⟩ := List.exists_cons_of_ne_nil (Path.slashParts_ne_nil path)
  have honward := h.onward
  rw [hparts] at honward
  obtain ⟨hpart, hrest⟩ := List.forall_mem_cons.1 honward
  have hfront : Path.front part = [.name (String.ofList part)] := by
    rw [Path.front, component?_of_onward hpart]
    · rfl
    · exact hpart.1
    · exact hpart.2.1
  have hmap : parts.filterMap Path.component? =
      parts.map fun part => .name (String.ofList part) := by
    rw [← List.filterMap_eq_map]
    exact List.filterMap_congr fun part hp => component?_of_onward (hrest part hp)
  rw [Path.components_of_slashParts hparts fun hnil => absurd hnil hpart.1, hfront, hmap, hparts]
  rfl

/-- A plain path has no other plain spelling. -/
theorem Plain.same_iff (h : Plain path) (h' : Plain path') :
    Path.Same path path' ↔ path = path' := by
  refine ⟨fun hsame => ?_, fun heq => heq ▸ rfl⟩
  rw [Path.Same, h.components, h'.components] at hsame
  have hparts : Path.slashParts path = Path.slashParts path' := by
    refine List.map_injective_iff.2 (fun a b hab => ?_) hsame
    exact String.ofList_injective (Path.Component.name.inj hab)
  rw [← Path.intercalate_slashParts path, hparts, Path.intercalate_slashParts]

/-! ## Files below a directory -/

/-- The file that a path below a directory leads to, if there is one. -/
def fileBelow? (d : Disk) (root path : String) : Option DiskFile :=
  (d.place? (Path.join root path)).bind d.file?

theorem fileBelow?_eq_some_iff :
    d.fileBelow? root path = some f ↔ ∃ names, d.Leads (Path.join root path) names f := by
  rw [fileBelow?, Option.bind_eq_some_iff]
  constructor
  · rintro ⟨at_, hplace, hf⟩
    obtain ⟨names, g, hleads, rfl⟩ := place?_eq_some_iff.1 hplace
    obtain rfl : g = f := Option.some.inj (hleads.file?.symm.trans hf)
    exact ⟨names, hleads⟩
  · rintro ⟨names, hleads⟩
    exact ⟨place names, hleads.place?, hleads.file?⟩

/-- What is not there cannot be read. -/
theorem exists_read_eq_error (h : d.fileBelow? root path = none) :
    ∃ k, d.read (Path.join root path) = .error k := by
  cases hread : d.read (Path.join root path) with
  | error k => exact ⟨k, rfl⟩
  | ok content =>
    obtain ⟨names, f, hleads, -⟩ := read_eq_ok_iff.1 hread
    rw [fileBelow?_eq_some_iff.2 ⟨names, hleads⟩] at h
    cases h

/-- A file that is written is the only one below a directory that changes. -/
theorem Leads.fileBelow?_put (h : d.Leads (Path.join root path) names f) (hplain : Plain path)
    (hplain' : Plain path') (g : DiskFile) :
    (d.put (place names) g).fileBelow? root path' =
      if path = path' then some g else d.fileBelow? root path' := by
  have htree : SameTree d (d.put (place names) g) := sameTree_put (by simp [h.file?]) g
  rw [fileBelow?, htree.place?, fileBelow?]
  by_cases heq : path = path'
  · rw [if_pos heq, ← heq, h.place?, Option.bind_some, file?_put_self]
  · rw [if_neg heq]
    refine Option.bind_congr fun at_ hplace => file?_put_of_ne (fun hat => heq ?_) d g
    exact place?_join_inj hplain hplain' h.place? (hat ▸ hplace)

/-- The files below a directory that plain paths lead to, each with its path. -/
def filesBelow (d : Disk) (root : String) : List MemoryFile :=
  match d.walk (d.base root) (Path.slashParts root) with
  | .error _ => []
  | .ok names =>
    (Dict.keys d.files).filterMap fun at_ =>
      (placeBelow? names at_).bind fun path =>
        if Plain path then (d.fileBelow? root path).map fun f => ⟨path, f.content, f.mode⟩
        else none

theorem mem_filesBelow_iff :
    mf ∈ d.filesBelow root ↔ Plain mf.path ∧ d.fileBelow? root mf.path = some mf.onDisk := by
  constructor
  · intro h
    simp only [filesBelow] at h
    split at h
    · cases h
    obtain ⟨at_, -, hat⟩ := List.mem_filterMap.1 h
    obtain ⟨path, -, hpath⟩ := Option.bind_eq_some_iff.1 hat
    split at hpath
    next hplain =>
      obtain ⟨f, hf, rfl⟩ := Option.map_eq_some_iff.1 hpath
      exact ⟨hplain, hf⟩
    · cases hpath
  · rintro ⟨hplain, hbelow⟩
    obtain ⟨at_, hplace, hf⟩ := Option.bind_eq_some_iff.1 hbelow
    obtain ⟨names, hwalk, hpath⟩ := placeBelow?_of_place?_join hplain hplace
    have hkey : at_ ∈ Dict.keys d.files := Dict.isSome_find?_iff.1 (by rw [← file?, hf]; rfl)
    simp only [filesBelow, hwalk]
    refine List.mem_filterMap.2 ⟨at_, hkey, ?_⟩
    rw [hpath, Option.bind_some, if_pos hplain, hbelow]
    rfl

/-! ## Mirrors -/

/-- The files in memory are those below a directory on a disk, under the paths from there to them,
and they can be written. -/
structure Mirrored (d : Disk) (root : String) (m : Memory) : Prop where
  files : ∀ path, Plain path → (m.file? path).map MemoryFile.onDisk = d.fileBelow? root path
  plain : ∀ path ∈ m.paths, Plain path
  writable : m.readOnly = false

/-- The files below a directory on a disk, put into memory. -/
def mirror (d : Disk) (root : String) : Memory :=
  Memory.putAll {} (d.filesBelow root)

/-- **The files below every directory have a mirror.** -/
theorem mirrored_mirror (d : Disk) (root : String) : d.Mirrored root (d.mirror root) where
  files path hplain := by
    rw [mirror, Memory.map_file?_putAll fun _ _ => rfl]
    cases hlatest : Memory.latest? (d.filesBelow root) path with
    | none =>
      -- What was not put under any spelling is not there, since all files below were put.
      cases hbelow : d.fileBelow? root path with
      | none => rfl
      | some f =>
        have hmem : ⟨path, f.content, f.mode⟩ ∈ (d.filesBelow root).reverse :=
          List.mem_reverse.2 (mem_filesBelow_iff.2 ⟨hplain, hbelow⟩)
        have hother : ¬Path.Same path path := by simpa using List.find?_eq_none.1 hlatest _ hmem
        exact absurd rfl hother
    | some mf =>
      obtain ⟨hplain', hbelow⟩ :=
        mem_filesBelow_iff.1 (List.mem_reverse.1 (List.mem_of_find?_eq_some hlatest))
      have hsame : Path.Same mf.path path := by simpa using List.find?_some hlatest
      rw [← (hplain'.same_iff hplain).1 hsame, hbelow]
      rfl
  plain path hpath := by
    obtain ⟨mf, hmf, rfl⟩ := Memory.mem_paths_iff.1 hpath
    have hfirst := Memory.map_path_file?_putAll (d.filesBelow root) mf.path
    rw [← mirror, hmf] at hfirst
    obtain ⟨first, hfind, hname⟩ := Option.map_eq_some_iff.1 hfirst.symm
    have hname : first.path = mf.path := hname
    exact hname ▸ (mem_filesBelow_iff.1 (List.mem_of_find?_eq_some hfind)).1
  writable := Memory.readOnly_putAll {} (d.filesBelow root)

namespace Mirrored

/-- What is not in memory is not on the disk. -/
theorem missing (h : d.Mirrored root m) (hplain : Plain path) (hmissing : m.file? path = none) :
    ∃ k, d.read (Path.join root path) = .error k := by
  refine exists_read_eq_error ?_
  rw [← h.files path hplain, hmissing]
  rfl

/-- What is in memory is on the disk. -/
theorem leads (h : d.Mirrored root m) (hplain : Plain path) (hf : m.file? path = some mf) :
    ∃ names, d.Leads (Path.join root path) names mf.onDisk := by
  refine fileBelow?_eq_some_iff.1 ?_
  rw [← h.files path hplain, hf]
  rfl

/-- **A mirror stays one** when a file is written on both sides. -/
theorem put (h : d.Mirrored root m) (hplain : Plain path)
    (hleads : d.Leads (Path.join root path) names f) (content : Bytes) (mode : Mode) :
    (d.put (place names) ⟨content, mode⟩).Mirrored root (m.insert path content mode) where
  files path' hplain' := by
    rw [hleads.fileBelow?_put hplain hplain', Memory.file?_insert]
    by_cases heq : path = path'
    · rw [if_pos heq, if_pos ((hplain.same_iff hplain').2 heq)]
      rfl
    · rw [if_neg heq, if_neg fun hsame => heq ((hplain.same_iff hplain').1 hsame)]
      exact h.files path' hplain'
  plain path' hpath' := by
    obtain ⟨mf, hmf, rfl⟩ := Memory.mem_paths_iff.1 hpath'
    -- A file that was there stays listed under its former path, which is plain as well.
    rw [Memory.file?_insert] at hmf
    split at hmf
    · cases hmf
      rw [Memory.listedPath]
      split
      next mf hmf => exact h.plain mf.path (Memory.path_mem_paths hmf)
      · exact hplain
    · exact h.plain mf.path (Memory.path_mem_paths hmf)
  writable := h.writable

end Mirrored

end Disk

end Downstream
