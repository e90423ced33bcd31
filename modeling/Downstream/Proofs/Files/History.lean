import Downstream.Proofs.Files.Memory
import Downstream.Proofs.Files.Path

/-!
# Files in memory after any steps

Files are put into memory in two ways, of which one is refused at times (`Memory.Step`). What is
there after some steps depends on the files that were put, in order (`runAll_eq_putAll`). Under any
spelling of a path there is the file that was put there last, and it is listed under the spelling
that was used first (`file?_putAll`). So files in memory are a map from components of paths
(`history_files`).
-/

namespace Downstream.Memory

variable {m : Memory} {path path' : String} {f : MemoryFile} {files : List MemoryFile}

/-! ## One file more -/

/-- A file that is put changes what is there for the spellings of its path, and nothing else. -/
theorem file?_insert (m : Memory) (path : String) (content : Bytes) (mode : Mode) (path' : String) :
    (m.insert path content mode).file? path' =
      if Path.Same path path' then some ⟨m.listedPath path, content, mode⟩ else m.file? path' := by
  by_cases h : Path.Same path path'
  · rw [if_pos h, file?, ← show Path.components path = Path.components path' from h]
    exact Dict.find?_insert_self _ _ _
  · rw [if_neg h]
    exact Dict.find?_insert_of_ne (fun heq => h heq.symm) _ _

/-- The paths that are listed are those that files are listed under. -/
theorem mem_paths_iff : path ∈ m.paths ↔ ∃ f, m.file? path = some f ∧ f.path = path := by
  rw [paths, list, List.map_map, List.mem_map]
  constructor
  · rintro ⟨e, he, rfl⟩
    refine ⟨e.2, ?_, rfl⟩
    rw [file?, Function.comp_apply, ← m.keyed e he]
    exact Dict.find?_of_mem (fun _ _ => Path.lt_asymm) m.ordered he
  · rintro ⟨f, hf, rfl⟩
    exact ⟨_, Dict.mem_of_find? hf, rfl⟩

/-- The paths are listed in the order of their components. -/
theorem pairwise_paths (m : Memory) :
    m.paths.Pairwise fun a b => Path.components a < Path.components b := by
  rw [paths, list, List.map_map, List.pairwise_map]
  refine m.ordered.imp_of_mem fun {a b} ha hb hlt => ?_
  rwa [m.keyed a ha, m.keyed b hb] at hlt

/-! ## Files that are put one after the other -/

/-- Puts files one after the other. -/
def putAll (m : Memory) (files : List MemoryFile) : Memory :=
  files.foldl (fun m f => m.insert f.path f.content f.mode) m

/-- The file that was put at a path first, whatever the spelling. -/
def first? (files : List MemoryFile) (path : String) : Option MemoryFile :=
  files.find? fun f => Path.Same f.path path

/-- The file that was put at a path last, whatever the spelling. -/
def latest? (files : List MemoryFile) (path : String) : Option MemoryFile :=
  files.reverse.find? fun f => Path.Same f.path path

theorem first?_append (files : List MemoryFile) (f : MemoryFile) (path : String) :
    first? (files ++ [f]) path =
      (first? files path).or (if Path.Same f.path path then some f else none) := by
  rw [first?, List.find?_append, first?, List.find?_singleton]
  simp

theorem latest?_append (files : List MemoryFile) (f : MemoryFile) (path : String) :
    latest? (files ++ [f]) path =
      if Path.Same f.path path then some f else latest? files path := by
  rw [latest?, List.reverse_append, List.reverse_singleton, List.singleton_append, List.find?_cons]
  by_cases h : Path.Same f.path path <;> simp [h, latest?]

theorem first?_congr (h : Path.Same path path') (files : List MemoryFile) :
    first? files path = first? files path' := by
  have hcomponents : Path.components path = Path.components path' := h
  rw [first?, first?]
  congr 1
  funext f
  rw [decide_eq_decide, Path.Same, Path.Same, hcomponents]

theorem isSome_latest? : (latest? files path).isSome = (first? files path).isSome := by
  rw [latest?, first?, Bool.eq_iff_iff, List.find?_isSome, List.find?_isSome]
  simp

/-- Where a file was put last, one was put first. -/
theorem exists_first?_latest? (files : List MemoryFile) (path : String) :
    (first? files path = none ∧ latest? files path = none) ∨
      ∃ g f, first? files path = some g ∧ latest? files path = some f := by
  have hsome : (latest? files path).isSome = (first? files path).isSome := isSome_latest?
  cases hfirst : first? files path <;> cases hlatest : latest? files path <;>
    simp [hfirst, hlatest] at hsome ⊢

/-- **The file put last counts, listed under the spelling used first.** -/
theorem file?_putAll (files : List MemoryFile) (path : String) :
    (putAll {} files).file? path =
      (first? files path).bind fun g => (latest? files path).map fun f => { f with path := g.path } := by
  induction files using List.reverseRecOn generalizing path with
  | nil => rfl
  | append_singleton files f ih =>
    rw [putAll, List.foldl_append, List.foldl_cons, List.foldl_nil, ← putAll, file?_insert,
      first?_append, latest?_append]
    by_cases h : Path.Same f.path path
    · rw [if_pos h, if_pos h, if_pos h, listedPath, ih, ← first?_congr h]
      obtain ⟨hfirst, -⟩ | ⟨g, g', hfirst, hlatest⟩ := exists_first?_latest? files f.path
      · rw [hfirst]
        rfl
      · rw [hfirst, hlatest]
        rfl
    · rw [if_neg h, if_neg h, if_neg h, ih, Option.or_none]

theorem map_file?_putAll {α : Type} {get : MemoryFile → α}
    (hget : ∀ f p, get { f with path := p } = get f) (files : List MemoryFile) (path : String) :
    ((putAll {} files).file? path).map get = (latest? files path).map get := by
  rw [file?_putAll]
  obtain ⟨hfirst, hlatest⟩ | ⟨g, f, hfirst, hlatest⟩ := exists_first?_latest? files path
  · rw [hfirst, hlatest]
    rfl
  · rw [hfirst, hlatest]
    exact congrArg some (hget f g.path)

theorem map_path_file?_putAll (files : List MemoryFile) (path : String) :
    ((putAll {} files).file? path).map (·.path) = (first? files path).map (·.path) := by
  rw [file?_putAll]
  obtain ⟨hfirst, hlatest⟩ | ⟨g, f, hfirst, hlatest⟩ := exists_first?_latest? files path <;>
    rw [hfirst, hlatest] <;> rfl

/-! ## Steps -/

/-- What can be done with files in memory. -/
inductive Step where
  /-- A file is put, also where writing is refused. -/
  | insert (path : String) (content : Bytes) (mode : Mode)
  /-- A file is written. -/
  | write (path : String) (content : Bytes) (mode : Mode)
  /-- Writing is refused from now on, or no longer. -/
  | setReadOnly (value : Bool)
  deriving DecidableEq

namespace Step

/-- Takes a step: how it ends, and the files after it. -/
def run : Step → Memory → Except FileError Unit × Memory
  | insert path content mode, m => (.ok (), m.insert path content mode)
  | write path content mode, m => fileSystem.write path content mode m
  | setReadOnly value, m => (.ok (), m.setReadOnly value)

/-- The files after steps, one after the other. -/
def runAll (steps : List Step) (m : Memory) : Memory :=
  steps.foldl (fun m s => (s.run m).2) m

/-- Whether writing is refused after a step. -/
def refusing (refused : Bool) : Step → Bool
  | setReadOnly value => value
  | _ => refused

/-- The file that a step puts. -/
def put? (refused : Bool) : Step → Option MemoryFile
  | insert path content mode => some ⟨path, content, mode⟩
  | write path content mode => if refused then none else some ⟨path, content, mode⟩
  | setReadOnly _ => none

/-- The files that steps put, in order. -/
def puts : (refused : Bool) → List Step → List MemoryFile
  | _, [] => []
  | refused, s :: steps => (s.put? refused).toList ++ puts (s.refusing refused) steps

/-- **A step puts its file**, if it puts one, and says whether writing is refused from then on. -/
theorem run_eq (s : Step) (m : Memory) :
    (s.run m).2 = (m.putAll (s.put? m.readOnly).toList).setReadOnly (s.refusing m.readOnly) := by
  cases s with
  | insert path content mode => rfl
  | write path content mode =>
    cases h : m.readOnly with
    | false =>
      rw [run, write_of_writable h]
      exact eq_of_files rfl h
    | true =>
      rw [run, write_of_readOnly h]
      exact eq_of_files rfl h
  | setReadOnly value => rfl

theorem putAll_setReadOnly (m : Memory) (files : List MemoryFile) (value : Bool) :
    (m.setReadOnly value).putAll files = (m.putAll files).setReadOnly value := by
  induction files generalizing m with
  | nil => rfl
  | cons f files ih => exact ih (m.insert f.path f.content f.mode)

/-- **Files after any steps are those that were put**, one after the other. -/
theorem runAll_eq_putAll (steps : List Step) (m : Memory) :
    runAll steps m =
      (m.putAll (puts m.readOnly steps)).setReadOnly (steps.foldl refusing m.readOnly) := by
  induction steps generalizing m with
  | nil => exact eq_of_files rfl rfl
  | cons s steps ih =>
    have hrefusing : ((s.run m).2).readOnly = s.refusing m.readOnly := by
      rw [run_eq]
      rfl
    have hputs : (s.run m).2.putAll (puts (s.refusing m.readOnly) steps) =
        (m.putAll (puts m.readOnly (s :: steps))).setReadOnly (s.refusing m.readOnly) := by
      rw [run_eq, putAll_setReadOnly, puts, putAll, putAll, putAll, List.foldl_append]
    rw [runAll, List.foldl_cons, ← runAll, ih, hrefusing, hputs]
    rfl

variable (steps : List Step) (path : String)

theorem readOnly_runAll (m : Memory) :
    (runAll steps m).readOnly = steps.foldl refusing m.readOnly := by
  rw [runAll_eq_putAll]
  rfl

/-- The content under a path is the one that was put there last. -/
theorem content?_runAll :
    (runAll steps {}).content? path = (latest? (puts false steps) path).map (·.content) := by
  rw [runAll_eq_putAll]
  exact map_file?_putAll (fun _ _ => rfl) _ path

theorem mode?_runAll :
    (runAll steps {}).mode? path = (latest? (puts false steps) path).map (·.mode) := by
  rw [runAll_eq_putAll]
  exact map_file?_putAll (fun _ _ => rfl) _ path

theorem read_runAll : fileSystem.read path (runAll steps {}) =
    ((latest? (puts false steps) path).elim (.error (missing path)) fun f => .ok f.content,
      runAll steps {}) := by
  have hread : ∀ m, fileSystem.read path m =
      ((m.content? path).elim (.error (missing path)) .ok, m) := fun _ => rfl
  rw [hread, content?_runAll]
  cases latest? (puts false steps) path <;> rfl

theorem stat_runAll : fileSystem.stat path (runAll steps {}) =
    ((latest? (puts false steps) path).elim (.error (missing path)) fun f => .ok f.mode,
      runAll steps {}) := by
  have hstat : ∀ m, fileSystem.stat path m =
      ((m.mode? path).elim (.error (missing path)) .ok, m) := fun _ => rfl
  rw [hstat, mode?_runAll]
  cases latest? (puts false steps) path <;> rfl

/-- A file is listed under the spelling of its path that was used first. -/
theorem mem_paths_runAll : path ∈ (runAll steps {}).paths ↔
    ∃ f, first? (puts false steps) path = some f ∧ f.path = path := by
  have hpath : ((runAll steps {}).file? path).map (·.path) =
      (first? (puts false steps) path).map (·.path) := by
    rw [runAll_eq_putAll]
    exact map_path_file?_putAll _ path
  rw [mem_paths_iff, ← Option.map_eq_some_iff, hpath, Option.map_eq_some_iff]

end Step

/-! ## A map from components -/

/-- The order of paths takes any two lists of components apart, and none from itself. -/
theorem eq_iff_not_lt {a b : List Path.Component} : a = b ↔ ¬a < b ∧ ¬b < a := by
  constructor
  · rintro rfl
    exact ⟨fun h => Path.lt_asymm h h, fun h => Path.lt_asymm h h⟩
  · rintro ⟨hab, hba⟩
    rcases Path.lt_total a b with h | h | h
    · exact absurd h hab
    · exact h
    · exact absurd h hba

/-- **Files in memory are a map from the components of paths.** After any steps, which put some
files, one finds under a path what was put last at a path of the same components, and nothing if
there was none. Where writing is refused it fails and changes nothing; otherwise, and in every case
if a file is inserted, it changes what is there for the spellings of its path alone. The files are
listed under the spellings that were used first, in strictly ascending order of their components,
which is a strict total order. Paths have the same components exactly if they differ in slashes and
a `.` that do not count, and all other components count. -/
theorem history_files (steps : List Step) :
    let m := Step.runAll steps {}
    let files := Step.puts false steps
    (∀ path,
      m.content? path = (latest? files path).map (·.content) ∧
      m.mode? path = (latest? files path).map (·.mode) ∧
      fileSystem.read path m =
        ((latest? files path).elim (.error (missing path)) fun f => .ok f.content, m) ∧
      fileSystem.stat path m =
        ((latest? files path).elim (.error (missing path)) fun f => .ok f.mode, m) ∧
      (missing path).kind = .notFound) ∧
    (∀ path content mode,
      (Step.write path content mode).run m =
        (if steps.foldl Step.refusing false then (.error (refused path), m)
          else (.ok (), m.insert path content mode)) ∧
      (refused path).kind = .permissionDenied ∧
      (Step.insert path content mode).run m = (.ok (), m.insert path content mode) ∧
      ∀ path', (m.insert path content mode).file? path' =
        if Path.Same path path' then some ⟨m.listedPath path, content, mode⟩
        else m.file? path') ∧
    ((∀ path, path ∈ m.paths ↔ ∃ f, first? files path = some f ∧ f.path = path) ∧
      m.paths.Pairwise fun a b => Path.components a < Path.components b) ∧
    (∀ a b c : List Path.Component,
      ¬a < a ∧ (a < b → b < c → a < c) ∧ (a = b ↔ ¬a < b ∧ ¬b < a)) ∧
    (∀ a b, Path.Same a b ↔ Relation.EqvGen Path.Shortens a b) ∧
    Path.components "" = [] ∧ (∀ path, Path.Proper (Path.components path)) ∧
    ∀ cs, Path.Proper cs → Path.components (Path.spelling cs) = cs := by
  intro m files
  have hwrite : ∀ path content mode, (Step.write path content mode).run m =
      (if steps.foldl Step.refusing false then (.error (refused path), m)
        else (.ok (), m.insert path content mode)) := fun path content mode => by
    rw [← Step.readOnly_runAll steps {}]
    rfl
  exact ⟨fun path => ⟨Step.content?_runAll steps path, Step.mode?_runAll steps path,
      Step.read_runAll steps path, Step.stat_runAll steps path, rfl⟩,
    fun path content mode => ⟨hwrite path content mode, rfl, rfl,
      file?_insert m path content mode⟩,
    ⟨Step.mem_paths_runAll steps, pairwise_paths m⟩,
    fun a b c => ⟨fun h => Path.lt_asymm h h, List.lt_trans, eq_iff_not_lt⟩,
    fun a b => Path.same_iff_eqvGen, rfl, Path.proper_components,
    fun cs => Path.components_spelling⟩

/-- Spellings that differ in what does not count denote one file, which is refused in between. -/
theorem history_files_aliases :
    let steps : List Step := [.insert "a//b" [1] 0o644, .setReadOnly true, .write "a/./b" [2] 0o600,
      .insert "./a" [3] 0o600, .setReadOnly false, .write "a/b/" [4] 0o640]
    let m := Step.runAll steps {}
    m.content? "a/b" = some [4] ∧ m.mode? "a//b" = some 0o640 ∧ m.content? "a" = none ∧
      "a//b" ∈ m.paths ∧ "a/b/" ∉ m.paths ∧ "./a" ∈ m.paths ∧ Path.Same "a/./b" "a/b" := by
  intro steps m
  obtain ⟨hfind, -, ⟨hpaths, -⟩, -, hsame, -⟩ := history_files steps
  have hdot : Path.Same "a/./b" "a/b" := (hsame _ _).2 (.rel _ _ (.dot "a" "b"))
  refine ⟨(hfind "a/b").1.trans ?_, (hfind "a//b").2.1.trans ?_, (hfind "a").1.trans ?_,
    (hpaths _).2 ⟨⟨"a//b", [1], 0o644⟩, ?_, rfl⟩, fun h => ?_,
    (hpaths _).2 ⟨⟨"./a", [3], 0o600⟩, ?_, rfl⟩, hdot⟩
  · rfl
  · rfl
  · rfl
  · rfl
  · obtain ⟨f, hf, hpath⟩ := (hpaths _).1 h
    have hfirst : first? (Step.puts false steps) "a/b/" = some ⟨"a//b", [1], 0o644⟩ := by rfl
    cases hf.symm.trans hfirst
    exact absurd hpath (by decide)
  · rfl

end Downstream.Memory
