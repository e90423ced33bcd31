import Downstream.Files.Disk
import Downstream.Proofs.Files.Path

/-!
# Files that paths on a disk lead to

A path that leads to a regular file (`Disk.Leads`) can be read, examined and, unless it ends with a
slash, written (`read_eq_ok_iff`, `stat_of_leads`, `write_of_leads`). Where paths lead depends on
which files and directories there are and not on what is in the files (`Disk.SameTree`), so it is
the same after a file was written (`sameTree_put`).

The paths of several files below one directory are walked together up to that directory
(`exists_slashParts_join`), and from there each of them is where its file lies
(`placeBelow?_of_place?_join`). So they lead to different places (`place?_join_inj`).
-/

namespace Downstream

/-- A key with a value is a key. -/
theorem Dict.isSome_find?_iff {κ α : Type} [DecidableEq κ] {k : κ} {d : Dict κ α} :
    (Dict.find? k d).isSome ↔ k ∈ Dict.keys d := by
  induction d with
  | nil => simp [Dict.find?, Dict.keys]
  | cons e rest ih =>
    obtain ⟨k', v⟩ := e
    rw [Dict.keys] at ih
    by_cases h : k = k'
    · simp [Dict.find?, Dict.keys, h]
    · simp [Dict.find?, Dict.keys, h, ih]

namespace Disk

variable {d d' d'' : Disk} {path : String} {names names' : List String} {f : DiskFile}

/-- The file at a place, if there is one. -/
def file? (d : Disk) (at_ : String) : Option DiskFile :=
  Dict.find? at_ d.files

/-- A path leads to a regular file, on a way of these names. -/
structure Leads (d : Disk) (path : String) (names : List String) (f : DiskFile) : Prop where
  ne_empty : path.isEmpty = false
  walk : d.walk (d.base path) (Path.slashParts path) = .ok names
  entry : d.entry? names = some (.file f)

theorem file?_of_entry? (h : d.entry? names = some (.file f)) : d.file? (place names) = some f := by
  simp only [ entry?] at h
  split at h
  · cases h
  · split at h
    next g hg =>
      cases h
      exact hg
    · split at h <;> cases h

theorem Leads.file? (h : d.Leads path names f) : d.file? (place names) = some f :=
  file?_of_entry? h.entry

/-! ## Calls -/

/-- What a path leads to is what is at the end of its way. -/
theorem resolve_eq_file_iff : d.resolve path = .ok (.file f) ↔ ∃ names, d.Leads path names f := by
  constructor
  · intro h
    simp only [resolve, bind, Except.bind] at h
    split at h
    · cases h
    next hne =>
    split at h
    · cases h
    next names hwalk =>
    split at h
    next e hentry =>
      cases h
      exact ⟨names, by simpa using hne, hwalk, hentry⟩
    · cases h
  · rintro ⟨names, hne, hwalk, hentry⟩
    simp [resolve, hne, hwalk, hentry, bind, Except.bind, pure, Except.pure]

theorem read_eq_ok_iff {content : Bytes} :
    d.read path = .ok content ↔ ∃ names f, d.Leads path names f ∧ f.content = content := by
  constructor
  · intro h
    cases hresolve : d.resolve path with
    | error k => simp [read, hresolve, bind, Except.bind] at h
    | ok e =>
      cases e with
      | directory => simp [read, hresolve, bind, Except.bind] at h
      | file f =>
        obtain ⟨names, hleads⟩ := resolve_eq_file_iff.1 hresolve
        simp [read, hresolve, bind, Except.bind, pure, Except.pure] at h
        exact ⟨names, f, hleads, h⟩
  · rintro ⟨names, f, hleads, rfl⟩
    simp [read, resolve_eq_file_iff.2 ⟨names, hleads⟩, bind, Except.bind, pure, Except.pure]

theorem stat_of_leads (h : d.Leads path names f) : d.stat path = .ok f.mode := by
  simp [stat, resolve_eq_file_iff.2 ⟨names, h⟩, bind, Except.bind, pure, Except.pure]

/-- The disk with a file at a place. -/
def put (d : Disk) (at_ : String) (f : DiskFile) : Disk :=
  { d with files := Dict.insert at_ f d.files }

/-- The path does not end with a slash. -/
def NamesFile (path : String) : Prop :=
  (Path.slashParts path).getLastD [] ≠ []

theorem target_of_leads (h : d.Leads path names f) (hfile : NamesFile path) :
    d.target path = .ok names := by
  have hfile : (Path.slashParts path).getLast?.getD [] ≠ [] := by simpa [NamesFile] using hfile
  simp [target, h.ne_empty, hfile, h.walk, h.entry, bind, Except.bind, pure, Except.pure]

/-- Writing a file that is there changes its content, and its permission bits to those given. -/
theorem write_of_leads (h : d.Leads path names f) (hfile : NamesFile path) (content : Bytes)
    (mode : Option Mode) :
    d.write path content mode =
      .ok (d.put (place names) ⟨content, (mode.map permissions).getD f.mode⟩) := by
  simp [write, target_of_leads h hfile, h.entry, bind, Except.bind, pure, Except.pure, put]

/-! ## The tree -/

/-- The disks have the same directories, and files at the same places. -/
structure SameTree (d d' : Disk) : Prop where
  home : d'.home = d.home
  directories : d'.directories = d.directories
  keys : ∀ at_, at_ ∈ Dict.keys d'.files ↔ at_ ∈ Dict.keys d.files

theorem SameTree.refl (d : Disk) : SameTree d d := ⟨rfl, rfl, fun _ => Iff.rfl⟩

theorem SameTree.trans (h : SameTree d d') (h' : SameTree d' d'') : SameTree d d'' :=
  ⟨h'.home.trans h.home, h'.directories.trans h.directories,
    fun at_ => (h'.keys at_).trans (h.keys at_)⟩

theorem SameTree.isSome_file? (h : SameTree d d') (at_ : String) :
    (d'.file? at_).isSome = (d.file? at_).isSome := by
  rw [Bool.eq_iff_iff, file?, file?, Dict.isSome_find?_iff, Dict.isSome_find?_iff]
  exact h.keys at_

/-- There is the same kind of thing at every place. -/
theorem SameTree.entry? (h : SameTree d d') (names : List String) :
    ( d.entry? names = none ∧ d'.entry? names = none) ∨
      ( d.entry? names = some .directory ∧ d'.entry? names = some .directory) ∨
      ∃ f f', d.entry? names = some (.file f) ∧ d'.entry? names = some (.file f') := by
  have hany : (Dict.keys d'.files).any (leadsThrough (place names)) =
      (Dict.keys d.files).any (leadsThrough (place names)) := by
    rw [Bool.eq_iff_iff, List.any_eq_true, List.any_eq_true]
    exact exists_congr fun at_ => and_congr_left fun _ => h.keys at_
  have hfile := h.isSome_file? (place names)
  simp only [ Disk.entry?, h.home, h.directories, hany]
  by_cases hhome : names.isPrefixOf d.home = true
  · simp [hhome]
  · rw [file?, file?] at hfile
    cases hf : Dict.find? (place names) d.files with
    | none =>
      have hf' : Dict.find? (place names) d'.files = none := by simpa [hf] using hfile
      simp only [hhome, hf']
      by_cases hdirectory : ((d.directories.any fun dir =>
          dir = place names || leadsThrough (place names) dir) ||
          (Dict.keys d.files).any (leadsThrough (place names))) = true <;>
        simp [hdirectory]
    | some f =>
      obtain ⟨f', hf'⟩ := Option.isSome_iff_exists.1 (hfile.trans (by simp [hf]))
      simp [hhome, hf']

theorem SameTree.obstacle? (h : SameTree d d') (names : List String) :
    d'.obstacle? names = d.obstacle? names := by
  rcases h.entry? names with ⟨he, he'⟩ | ⟨he, he'⟩ | ⟨f, f', he, he'⟩ <;>
    simp [Disk.obstacle?, he, he']

theorem SameTree.walk (h : SameTree d d') (names : List String) (parts : List (List Char)) :
    d'.walk names parts = d.walk names parts := by
  induction parts generalizing names with
  | nil => rfl
  | cons part parts ih => simp only [Disk.walk, h.obstacle?, ih]

/-- Paths lead to the same places. -/
theorem SameTree.leads (h : SameTree d d') (hleads : d.Leads path names f) :
    ∃ f', d'.Leads path names f' := by
  have hbase : d'.base path = d.base path := by simp [base, h.home]
  rcases h.entry? names with ⟨he, -⟩ | ⟨he, -⟩ | ⟨_, f', -, he'⟩
  · simp [hleads.entry] at he
  · simp [hleads.entry] at he
  · exact ⟨f', hleads.ne_empty, by rw [hbase, h.walk, hleads.walk], he'⟩

theorem SameTree.symm (h : SameTree d d') : SameTree d' d :=
  ⟨h.home.symm, h.directories.symm, fun at_ => (h.keys at_).symm⟩

@[simp] theorem file?_put_self (d : Disk) (at_ : String) (f : DiskFile) :
    (d.put at_ f).file? at_ = some f :=
  Dict.find?_insert_self at_ f d.files

theorem file?_put_of_ne {at_ other : String} (hne : other ≠ at_) (d : Disk) (f : DiskFile) :
    (d.put at_ f).file? other = d.file? other :=
  Dict.find?_insert_of_ne hne f d.files

theorem sameTree_put {at_ : String} (h : (d.file? at_).isSome) (f : DiskFile) :
    SameTree d (d.put at_ f) := by
  refine ⟨rfl, rfl, fun other => ?_⟩
  rw [← Dict.isSome_find?_iff, ← Dict.isSome_find?_iff]
  by_cases hne : other = at_
  · subst hne
    rw [put, Dict.find?_insert_self]
    exact ⟨fun _ => h, fun _ => rfl⟩
  · rw [put, Dict.find?_insert_of_ne hne]

/-! ## Places -/

/-- The place of the file that a path leads to. -/
def place? (d : Disk) (path : String) : Option String :=
  match d.walk (d.base path) (Path.slashParts path) with
  | .error _ => none
  | .ok names =>
    match d.entry? names with
    | some (.file _) => if path.isEmpty then none else some (place names)
    | _ => none

theorem place?_eq_some_iff {at_ : String} :
    d.place? path = some at_ ↔ ∃ names f, d.Leads path names f ∧ place names = at_ := by
  constructor
  · intro h
    simp only [place?] at h
    split at h
    · cases h
    next names hwalk =>
    split at h
    next f hentry =>
      split at h
      · cases h
      next hne => exact ⟨names, f, ⟨by simpa using hne, hwalk, hentry⟩, Option.some.inj h⟩
    · cases h
  · rintro ⟨names, f, ⟨hne, hwalk, hentry⟩, rfl⟩
    simp [place?, hne, hwalk, hentry]

theorem Leads.place? (h : d.Leads path names f) : d.place? path = some (place names) :=
  place?_eq_some_iff.2 ⟨names, f, h, rfl⟩

theorem SameTree.place? (h : SameTree d d') (path : String) : d'.place? path = d.place? path := by
  have hle : ∀ {d d' : Disk} {at_ : String}, SameTree d d' →
      d.place? path = some at_ → d'.place? path = some at_ := by
    intro d d' at_ h hplace
    obtain ⟨names, f, hleads, rfl⟩ := place?_eq_some_iff.1 hplace
    obtain ⟨f', hleads'⟩ := h.leads hleads
    exact hleads'.place?
  exact Option.ext fun at_ => ⟨hle h.symm, hle h⟩

/-! ## Several paths below one directory -/

/-- The way to a path below a directory goes to the directory first. -/
theorem exists_slashParts_join (dir : String) :
    ∃ front, (Path.slashParts dir = front ∨ Path.slashParts dir = front ++ [[]]) ∧
      ∀ path, Path.isAbsolute path = false →
        Path.slashParts (Path.join dir path) = front ++ Path.slashParts path ∧
          Path.isAbsolute (Path.join dir path) = Path.isAbsolute dir := by
  by_cases hempty : dir.isEmpty = true
  · obtain rfl : dir = "" := by simpa using hempty
    refine ⟨[], .inr rfl, fun path hpath => ?_⟩
    have hjoin : Path.join "" path = path := by simp [Path.join]
    rw [hjoin, hpath]
    exact ⟨rfl, rfl⟩
  have hhead : ∀ s : String, Path.isAbsolute (dir ++ s) = Path.isAbsolute dir := by
    intro s
    have hne : dir.toList ≠ [] := by simpa using hempty
    obtain ⟨c, cs, hcs⟩ := List.exists_cons_of_ne_nil hne
    simp [Path.isAbsolute, hcs]
  by_cases hslash : dir.toList.getLast? = some '/'
  · obtain ⟨cs, hcs⟩ : ∃ cs, dir.toList = cs ++ ['/'] := List.getLast?_eq_some_iff.1 hslash
    have hdir : dir = String.ofList cs ++ "/" := by
      rw [← String.toList_inj]
      simp [hcs]
    refine ⟨Path.slashParts (String.ofList cs), .inr ?_, fun path hpath => ?_⟩
    · rw [hdir, Path.append_slash_empty, Path.slashParts_append]
      rfl
    · have hjoin : Path.join dir path = dir ++ path := by simp [Path.join, hempty, hpath, hslash]
      rw [hjoin, hhead]
      exact ⟨by rw [hdir, Path.slashParts_append], rfl⟩
  · refine ⟨Path.slashParts dir, .inl rfl, fun path hpath => ?_⟩
    have hjoin : Path.join dir path = dir ++ "/" ++ path := by
      simp [Path.join, hempty, hpath, hslash]
    rw [hjoin]
    exact ⟨Path.slashParts_append dir path, by rw [String.append_assoc, hhead]⟩

theorem walk_append (d : Disk) (names : List String) (front parts : List (List Char)) :
    d.walk names (front ++ parts) =
      match d.walk names front with
      | .ok names => d.walk names parts
      | .error k => .error k := by
  induction front generalizing names with
  | nil => rfl
  | cons part front ih =>
    simp only [List.cons_append, walk]
    cases d.obstacle? names with
    | some k => rfl
    | none =>
      by_cases hhere : part = [] ∨ part = ['.']
      · simp only [if_pos hhere, ih]
      · by_cases hback : part = ['.', '.']
        · simp only [if_neg hhere, if_pos hback, ih]
        · simp only [if_neg hhere, if_neg hback, ih]

/-- A path that neither starts at the top nor stays or goes back anywhere. -/
structure Plain (path : String) : Prop where
  relative : Path.isAbsolute path = false
  onward : ∀ part ∈ Path.slashParts path, part ≠ [] ∧ part ≠ ['.'] ∧ part ≠ ['.', '.']

instance (path : String) : Decidable (Plain path) :=
  decidable_of_iff (Path.isAbsolute path = false ∧
    ∀ part ∈ Path.slashParts path, part ≠ [] ∧ part ≠ ['.'] ∧ part ≠ ['.', '.'])
    ⟨fun h => ⟨h.1, h.2⟩, fun h => ⟨h.relative, h.onward⟩⟩

theorem Plain.namesFile_join (h : Plain path) (dir : String) : NamesFile (Path.join dir path) := by
  obtain ⟨front, -, hjoin⟩ := exists_slashParts_join dir
  have hne : Path.slashParts path ≠ [] := Path.slashParts_ne_nil path
  rw [NamesFile, (hjoin path h.relative).1, List.getLastD_eq_getLast?, List.getLast?_append,
    List.getLast?_eq_some_getLast hne]
  exact (h.onward _ (List.getLast_mem hne)).1

/-- The way along a plain path. -/
theorem walk_plain {parts : List (List Char)}
    (h : ∀ part ∈ parts, part ≠ [] ∧ part ≠ ['.'] ∧ part ≠ ['.', '.'])
    (hwalk : d.walk names parts = .ok names') : names' = names ++ parts.map String.ofList := by
  induction parts generalizing names with
  | nil =>
    cases hwalk
    simp
  | cons part parts ih =>
    obtain ⟨⟨hne, hhere, hback⟩, hrest⟩ := List.forall_mem_cons.1 h
    simp only [walk, hne, hhere, hback, or_self, if_false] at hwalk
    cases hobstacle : d.obstacle? names with
    | some k => simp [hobstacle] at hwalk
    | none =>
      rw [hobstacle] at hwalk
      rw [ih hrest hwalk]
      simp

theorem place_slashParts (path : String) :
    place ((Path.slashParts path).map String.ofList) = path :=
  Path.intercalate_slashParts path

/-- A plain path goes on from a directory. -/
theorem obstacle?_of_walk (h : d.walk names (Path.slashParts path) = .ok names') :
    d.obstacle? names = none := by
  obtain ⟨part, parts, hparts⟩ := List.exists_cons_of_ne_nil (Path.slashParts_ne_nil path)
  rw [hparts, walk] at h
  cases hobstacle : d.obstacle? names with
  | none => rfl
  | some k => simp [hobstacle] at h

theorem placeBelow?_place_append (names : List String) {rest : List String} (hrest : rest ≠ []) :
    placeBelow? names (place (names ++ rest)) = some (place rest) := by
  by_cases hnames : names = []
  · subst hnames
    rfl
  · have hplace : place (names ++ rest) = place names ++ "/" ++ place rest :=
      String.intercalate_append_of_ne_nil hnames hrest
    have hlist : (place (names ++ rest)).toList =
        (place names).toList ++ ['/'] ++ (place rest).toList := by
      simp [hplace]
    have hdrop : (place (names ++ rest)).toList.drop ((place names).toList.length + 1) =
        (place rest).toList := by
      rw [hlist]
      exact List.drop_left' (by simp)
    have hthrough : leadsThrough (place names) (place (names ++ rest)) = true := by
      rw [leadsThrough, List.isPrefixOf_iff_prefix, hlist]
      exact List.prefix_append _ _
    rw [placeBelow?, if_neg (by simpa using hnames), if_pos hthrough, hdrop, String.ofList_toList]

/-- **A file that a plain path below a directory leads to lies below this directory, at this
path.** -/
theorem placeBelow?_of_place?_join {dir at_ : String} (h : Plain path)
    (hplace : d.place? (Path.join dir path) = some at_) :
    ∃ names, d.walk (d.base dir) (Path.slashParts dir) = .ok names ∧
      placeBelow? names at_ = some path := by
  obtain ⟨front, hfront, hjoin⟩ := exists_slashParts_join dir
  obtain ⟨names', f, hleads, rfl⟩ := place?_eq_some_iff.1 hplace
  have hwalk := hleads.walk
  rw [base, (hjoin path h.relative).1, (hjoin path h.relative).2, ← base, walk_append] at hwalk
  split at hwalk
  next names hnames =>
    refine ⟨names, ?_, ?_⟩
    · rcases hfront with hdir | hdir
      · rw [hdir, hnames]
      · simp [hdir, walk_append, hnames, walk, obstacle?_of_walk hwalk]
    · have hparts : (Path.slashParts path).map String.ofList ≠ [] :=
        mt List.map_eq_nil_iff.1 (Path.slashParts_ne_nil path)
      rw [walk_plain h.onward hwalk, placeBelow?_place_append names hparts, place_slashParts]
  · cases hwalk

/-- **Different plain paths below a directory lead to different files.** -/
theorem place?_join_inj {path' dir at_ : String} (h : Plain path) (h' : Plain path')
    (hplace : d.place? (Path.join dir path) = some at_)
    (hplace' : d.place? (Path.join dir path') = some at_) : path = path' := by
  obtain ⟨names, hwalk, hbelow⟩ := placeBelow?_of_place?_join h hplace
  obtain ⟨names', hwalk', hbelow'⟩ := placeBelow?_of_place?_join h' hplace'
  obtain rfl : names = names' := Except.ok.inj (hwalk.symm.trans hwalk')
  exact Option.some.inj (hbelow.symm.trans hbelow')

end Disk

end Downstream
