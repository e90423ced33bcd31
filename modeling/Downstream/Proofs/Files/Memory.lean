import Downstream.Files.Memory

/-!
# Files in memory as a file system

What the calls of `Memory.fileSystem` answer, by whether the path denotes a file. Where a file is
there already, writing it with its own permission bits changes its content and nothing else: the
files stay the same, under the same spellings (`Memory.insert_eq_revise`). `Memory.revise` changes
contents in this way, file by file.
-/

namespace Downstream.Memory

variable {m m' : Memory} {path : String} {f : MemoryFile}

/-! ## Calls -/

theorem read_of_missing (h : m.file? path = none) :
    fileSystem.read path m = (.error (missing path), m) := by
  simp [fileSystem, content?, h]

theorem read_of_file? (h : m.file? path = some f) :
    fileSystem.read path m = (.ok f.content, m) := by
  simp [fileSystem, content?, h]

theorem stat_of_file? (h : m.file? path = some f) :
    fileSystem.stat path m = (.ok f.mode, m) := by
  simp [fileSystem, mode?, h]

theorem write_of_readOnly (h : m.readOnly = true) (content : Bytes) (mode : Mode) :
    fileSystem.write path content mode m = (.error (refused path), m) := by
  simp [fileSystem, h]

theorem write_of_writable (h : m.readOnly = false) (content : Bytes) (mode : Mode) :
    fileSystem.write path content mode m = (.ok (), m.insert path content mode) := by
  simp [fileSystem, h]

/-! ## Revised contents -/

theorem eq_of_files (hfiles : m.files = m'.files) (hreadOnly : m.readOnly = m'.readOnly) :
    m = m' := by
  cases m
  cases m'
  cases hfiles
  cases hreadOnly
  rfl

/-- The files with contents revised; `g` says how, from the path that a file is listed under. -/
def revise (m : Memory) (g : String → Bytes → Bytes) : Memory where
  files := m.files.map fun e => (e.1, { e.2 with content := g e.2.path e.2.content })
  readOnly := m.readOnly
  ordered := by
    rw [Dict.Ordered, List.pairwise_map]
    exact m.ordered
  keyed := by
    intro e he
    obtain ⟨e', he', rfl⟩ := List.mem_map.1 he
    exact m.keyed e' he'

@[simp] theorem readOnly_revise (m : Memory) (g : String → Bytes → Bytes) :
    (m.revise g).readOnly = m.readOnly := rfl

/-- Revising contents keeps all files, under the paths they are listed under. -/
theorem paths_revise (m : Memory) (g : String → Bytes → Bytes) : (m.revise g).paths = m.paths := by
  simp only [paths, list, revise, List.map_map]
  rfl

@[simp] theorem file?_revise (m : Memory) (g : String → Bytes → Bytes) (path : String) :
    (m.revise g).file? path =
      (m.file? path).map fun f => { f with content := g f.path f.content } :=
  Dict.find?_map (fun f : MemoryFile => { f with content := g f.path f.content }) _ m.files

theorem revise_revise (m : Memory) (g h : String → Bytes → Bytes) :
    (m.revise g).revise h = m.revise fun path content => h path (g path content) := by
  refine eq_of_files ?_ rfl
  simp only [revise, List.map_map]
  rfl

theorem revise_eq_self {g : String → Bytes → Bytes}
    (h : ∀ e ∈ m.files, g e.2.path e.2.content = e.2.content) : m.revise g = m := by
  refine eq_of_files ((List.map_congr_left fun e he => ?_).trans (List.map_id _)) rfl
  rw [h e he]
  rfl

/-- **Writing a file that is there, with the permission bits it has, revises its content.** -/
theorem insert_eq_revise (h : m.file? path = some f) (g : Bytes → Bytes) :
    m.insert path (g f.content) f.mode =
      m.revise fun path' content => if Path.Same path path' then g content else content := by
  have hasymm : ∀ a b : List Path.Component, a < b → ¬b < a := fun _ _ => Path.lt_asymm
  refine eq_of_files ?_ rfl
  simp only [insert, revise]
  rw [Dict.insert_eq_map hasymm _ m.ordered h]
  refine List.map_congr_left fun e he => ?_
  have hkey := m.keyed e he
  by_cases hk : e.1 = Path.components path
  · have hfile : some e.2 = some f := by
      rw [← Dict.find?_of_mem hasymm m.ordered he, hk]
      exact h
    obtain rfl := Option.some.inj hfile
    rw [if_pos hk, if_pos (show Path.Same path e.2.path from hk.symm.trans hkey), listedPath, h]
  · have hsame : ¬Path.Same path e.2.path := fun hs => hk (hkey.trans hs.symm)
    rw [if_neg hk, if_neg hsame]

end Downstream.Memory
