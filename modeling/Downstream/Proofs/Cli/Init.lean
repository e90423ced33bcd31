import Downstream.Cli.Run
import Downstream.Proofs.OpenShift.Rules
import Downstream.Proofs.Scaffold.Protocol
import Downstream.Proofs.Substitution.Disk

/-!
# The command `init`

What the command `init` leaves of the files of a disk, where every call may also fail. The document
is read, the files of the built-in table are substituted, and the document is written last, with
the marker if it has a place for it (`init_eq_steps`). So a document is never written, and no marker
is recorded, unless all else went well (`run_init`).
-/

namespace Downstream

/-! ## The document -/

/-- The storage fails, or keeps its documents on a disk. -/
structure Storage.Serves (storage : Storage (StateM Disk)) : Prop where
  load : ∀ path d, (∃ e, storage.load path d = (.error e, d)) ∨
    ∃ content, d.read path = .ok content ∧ storage.load path d = (.ok content, d)
  save : ∀ path content d,
    (∃ e d', d.Spoiled path d' ∧ storage.save path content d = (.error e, d')) ∨
    ∃ d', d.write path content none = .ok d' ∧ storage.save path content d = (.ok (), d')

theorem Disk.serves_storage : Disk.storage.Serves where
  load path d := by
    simp only [storage]
    cases d.read path with
    | error k => exact .inl ⟨.system k, rfl⟩
    | ok content => exact .inr ⟨content, rfl, rfl⟩
  save path content d := by
    simp only [storage]
    cases d.write path content none with
    | error k => exact .inl ⟨.system k, d, .inl rfl, rfl⟩
    | ok d' => exact .inr ⟨d', rfl, rfl⟩

namespace Disk

variable {d d' : Disk} {path : String} {names : List String} {f : DiskFile}
  {storage : Storage (StateM Disk)}

/-- Reading a document changes nothing, and what is read is in a file. -/
theorem load_serves (h : storage.Serves) (path : String) (d : Disk) :
    (Config.load storage path d).2 = d ∧ ∀ c, (Config.load storage path d).1 = .ok c →
      ∃ names f, d.Leads path names f ∧ Config.ofContent path f.content = .ok c := by
  rcases h.load path d with ⟨e, hload⟩ | ⟨content, hcontent, hload⟩ <;>
    simp only [Config.load, bind, StateT.bind, hload]
  · exact ⟨rfl, nofun⟩
  · obtain ⟨names, f, hleads, rfl⟩ := read_eq_ok_iff.1 hcontent
    exact ⟨rfl, fun c hc => ⟨names, f, hleads, hc⟩⟩

/-- A document is written in place of the one that is there, or writing failed. -/
theorem Leads.save (h : d.Leads path names f) (hfile : NamesFile path) (hstorage : storage.Serves)
    (c : Config) :
    let saved := Config.save storage path c d
    (saved.1 = .ok () ∧ saved.2 = d.put (place names) ⟨Utf8.ofString c.text, f.mode⟩) ∨
      (∃ e, saved.1 = .error (.write path e)) ∧
        (saved.2 = d ∨ ∃ f', saved.2 = d.put (place names) f') := by
  rcases hstorage.save path (Utf8.ofString c.text) d with
    ⟨e, d', hspoiled, hsave⟩ | ⟨d', hd', hsave⟩ <;>
    simp only [Config.save, bind, StateT.bind, hsave]
  · exact .inr ⟨⟨e, rfl⟩, h.spoiled hfile hspoiled⟩
  · rw [write_of_leads h hfile] at hd'
    cases hd'
    exact .inl ⟨rfl, rfl⟩

end Disk

/-! ## The command -/

namespace OpenShift

theorem paths_table : table.paths = [dockerfilePath, authProxyPatchPath, goModPath] := by
  simp [Table.paths, Dict.keys, entries_table]

/-- The paths of the built-in table are plain. -/
theorem plain_of_mem_table {e : String × List Rule} (h : e ∈ table.entries) : Disk.Plain e.1 := by
  have hplain : ∀ path ∈ table.paths, Disk.Plain path := by
    rw [paths_table]
    decide
  exact hplain e.1 (List.mem_map_of_mem h)

theorem size_table : table.size = 3 := by
  rw [Table.size, entries_table]
  rfl

theorem nodup_paths_table : (table.entries.map Prod.fst).Nodup := by
  have hnodup : table.paths.Nodup := by
    rw [paths_table]
    decide
  exact hnodup

/-- The built-in table is not about the document. -/
theorem ne_fileName_of_mem_table {e : String × List Rule} (h : e ∈ table.entries) :
    e.1 ≠ Config.fileName := by
  have hne : ∀ path ∈ table.paths, path ≠ Config.fileName := by
    rw [paths_table]
    decide
  exact hne e.1 (List.mem_map_of_mem h)

end OpenShift

namespace Cli

variable {σ : Type}

/-- The steps of `init` on the files of a table. -/
def steps (t : Table) (files : FileSystem (StateM σ)) (storage : Storage (StateM σ))
    (filter : Filter) (dir : String) (s : σ) : Outcome × σ :=
  let document := Path.join dir Config.fileName
  match Config.load storage document s with
  | (.error e, s) => (.failed "Failed to load project config" e.chain [], s)
  | (.ok c, s) =>
    match replaceImages files t s with
    | ((.error e, events), s) =>
      (.failed ("Failed to scaffold " ++ dir) (ScaffoldError.imageSubstitution e).chain
        ((events.filter filter.shows).map Event.line), s)
    | ((.ok (), events), s) =>
      let events := events ++ c.markerEvents ++ [.finished t.size]
      let log := (events.filter filter.shows).map Event.line
      match Config.save storage document c.marked s with
      | (.error e, s) => (.failed "Failed to save project config" e.chain log, s)
      | (.ok (), s) =>
        (⟨0, "Updated " ++ dir ++ " for OpenShift (" ++ toString t.size ++ " files checked)\n", "",
          log⟩, s)

theorem pure_apply {α : Type} (a : α) (s : σ) : (pure a : StateM σ α) s = (a, s) :=
  rfl

theorem init_eq_steps (files : FileSystem (StateM σ)) (storage : Storage (StateM σ))
    (filter : Filter) (dir : String) (s : σ) :
    init files storage filter dir s = steps OpenShift.table files storage filter dir s := by
  rcases hload : Config.load storage (Path.join dir Config.fileName) s with ⟨e | c, s₁⟩
  · simp only [init, steps, bind, StateT.bind, hload]
    rfl
  have hscaffold : scaffold files.beside Config.store OpenShift.table c s₁ = _ :=
    congrFun (run_scaffold files OpenShift.table c) s₁
  simp only [bind, StateT.bind] at hscaffold
  rcases himages : replaceImages files OpenShift.table s₁ with ⟨⟨e | u, events⟩, s₂⟩ <;>
    simp only [himages] at hscaffold
  · simp only [init, steps, bind, StateT.bind, hload, hscaffold, himages, pure_apply]
  · rcases hsave : Config.save storage (Path.join dir Config.fileName) c.marked s₂ with
      ⟨e | u, s₃⟩ <;>
      simp only [init, steps, bind, StateT.bind, hload, hscaffold, himages, hsave, pure_apply]

/-- The line on standard output tells success. -/
theorem output_steps (t : Table) (files : FileSystem (StateM σ)) (storage : Storage (StateM σ))
    (filter : Filter) (dir : String) (s : σ) :
    let outcome := (steps t files storage filter dir s).1
    outcome.output = if outcome.exit = 0 then
      "Updated " ++ dir ++ " for OpenShift (" ++ toString t.size ++ " files checked)\n" else "" := by
  rcases hload : Config.load storage (Path.join dir Config.fileName) s with ⟨e | c, s₁⟩
  · simp [steps, hload, Outcome.failed]
  rcases himages : replaceImages files t s₁ with ⟨⟨e | u, events⟩, s₂⟩
  · simp [steps, hload, himages, Outcome.failed]
  rcases hsave : Config.save storage (Path.join dir Config.fileName) c.marked s₂ with ⟨e | u, s₃⟩ <;>
    simp [steps, hload, himages, hsave, Outcome.failed]

/-- The exit code and the state after the steps. -/
theorem exit_steps (t : Table) (files : FileSystem (StateM σ)) (storage : Storage (StateM σ))
    (filter : Filter) (dir : String) (s : σ) :
    let document := Path.join dir Config.fileName
    let run := steps t files storage filter dir s
    (run.1.exit, run.2) =
      match Config.load storage document s with
      | (.error _, s) => (1, s)
      | (.ok c, s) =>
        match scaffoldRun files t (c, s) with
        | (.error _, _, s) => (1, s)
        | (.ok (), c, s) =>
          match Config.save storage document c s with
          | (.error _, s) => (1, s)
          | (.ok (), s) => (0, s) := by
  rcases hload : Config.load storage (Path.join dir Config.fileName) s with ⟨e | c, s₁⟩
  · simp [steps, hload, Outcome.failed]
  rcases himages : replaceImages files t s₁ with ⟨⟨e | u, events⟩, s₂⟩
  · simp [steps, hload, himages, scaffoldRun_eq, Outcome.failed]
  rcases hsave : Config.save storage (Path.join dir Config.fileName) c.marked s₂ with ⟨e | u, s₃⟩ <;>
    simp [steps, hload, himages, hsave, scaffoldRun_eq, Outcome.failed]

section

variable {t : Table} {fs : FileSystem (StateM Disk)} {storage : Storage (StateM Disk)}
  {dir : String} {d : Disk} {c : Config} {names : List String} {f : DiskFile}

/-- The scaffold step with the files of a disk. -/
theorem scaffoldRun_serves (hfs : fs.Serves dir) (hplain : ∀ e ∈ t.entries, Disk.Plain e.1)
    (hdistinct : (t.entries.map Prod.fst).Nodup) (hmodes : d.KeepsPermissions) (c : Config) :
    let scaffolded := scaffoldRun fs t (c, d)
    (scaffolded.1 = .ok () ∧ d.Rewrote dir t.entries (fun _ => False) scaffolded.2.2) ∨
      ∃ pre path rules post cause, t.entries = pre ++ (path, rules) :: post ∧
        scaffolded.1 = .error (.imageSubstitution cause) ∧ cause.path? = some path ∧
        d.Rewrote dir pre (fun at_ => (∃ e, cause = .write path e) ∧
          d.place? (Path.join dir path) = some at_) scaffolded.2.2 := by
  have hreplaced := Disk.substituteAll_rewrote hfs hplain hdistinct hmodes
  rw [← replaceImages] at hreplaced
  rw [scaffoldRun_eq]
  rcases himages : replaceImages fs t d with ⟨⟨result, events⟩, d'⟩
  rw [himages] at hreplaced
  obtain ⟨rfl, hrewrote⟩ | ⟨pre, path, rules, post, cause, hentries, rfl, habout, hrewrote⟩ :=
    hreplaced
  · exact .inl ⟨rfl, hrewrote⟩
  · exact .inr ⟨pre, path, rules, post, cause, hentries, rfl, habout, hrewrote⟩

/-- The document is written behind the files of a table that is not about it, or writing failed. -/
theorem save_of_rewrote (hstorage : storage.Serves) (c : Config) {d' : Disk}
    (hleads : d.Leads (Path.join dir Config.fileName) names f)
    (hother : ∀ e ∈ t.entries, d.place? (Path.join dir e.1) ≠ some (Disk.place names))
    (hrewrote : d.Rewrote dir t.entries (fun _ => False) d') :
    let saved := Config.save storage (Path.join dir Config.fileName) c d'
    d.Rewrote dir t.entries (· = Disk.place names) saved.2 ∧
      (saved.1 = .ok () →
        saved.2.file? (Disk.place names) = some ⟨Utf8.ofString c.text, f.mode⟩) := by
  intro saved
  have hfile : Disk.NamesFile (Path.join dir Config.fileName) :=
    Disk.Plain.namesFile_join (by decide) dir
  obtain ⟨f', hleads'⟩ := hrewrote.tree.leads hleads
  obtain rfl : f' = f := by
    have hkept := hrewrote.kept _ id hother
    rw [hleads'.file?, hleads.file?] at hkept
    exact Option.some.inj hkept
  have hat : (d.file? (Disk.place names)).isSome := by simp [hleads.file?]
  rcases hleads'.save hfile hstorage c with ⟨-, hafter⟩ | ⟨⟨e, herr⟩, hafter⟩
  · have hsaved : saved.2 = _ := hafter
    rw [hsaved]
    exact ⟨hrewrote.put hat hother _, fun _ => Disk.file?_put_self _ _ _⟩
  · refine ⟨?_, fun hok => by cases herr.symm.trans hok⟩
    rcases hafter with hsaved | ⟨f', hsaved⟩
    · exact hsaved ▸ hrewrote.mono fun _ => False.elim
    · exact hsaved ▸ hrewrote.put hat hother f'

/-- The steps after the document was read, for a table that is not about the document. -/
theorem steps_of_loaded (hfs : fs.Serves dir) (hstorage : storage.Serves)
    (hplain : ∀ e ∈ t.entries, Disk.Plain e.1) (hdistinct : (t.entries.map Prod.fst).Nodup)
    (hne : ∀ e ∈ t.entries, e.1 ≠ Config.fileName) (hmodes : d.KeepsPermissions)
    (hload : Config.load storage (Path.join dir Config.fileName) d = (.ok c, d))
    (hleads : d.Leads (Path.join dir Config.fileName) names f) (filter : Filter) :
    let run := steps t fs storage filter dir d
    let scaffolded := scaffoldRun fs t (c, d)
    let saved := Config.save storage (Path.join dir Config.fileName) scaffolded.2.1 scaffolded.2.2
    (∀ e, scaffolded.1 = .error e → run.1.exit = 1 ∧ run.2.file? (Disk.place names) = some f ∧
      ∃ pre path rules post cause, t.entries = pre ++ (path, rules) :: post ∧
        e = .imageSubstitution cause ∧ cause.path? = some path ∧
        d.Rewrote dir pre (fun at_ => (∃ e, cause = .write path e) ∧
          d.place? (Path.join dir path) = some at_) run.2) ∧
      (scaffolded.1 = .ok () →
        d.Rewrote dir t.entries (· = Disk.place names) run.2 ∧
          (∀ e, saved.1 = .error e → run.1.exit = 1) ∧
          (saved.1 = .ok () → run.1.exit = 0 ∧
            run.2.file? (Disk.place names) =
              some ⟨Utf8.ofString scaffolded.2.1.text, f.mode⟩)) := by
  intro run scaffolded saved
  have hexit := exit_steps t fs storage filter dir d
  have hother : ∀ e ∈ t.entries, d.place? (Path.join dir e.1) ≠ some (Disk.place names) :=
    fun e he hplace =>
      hne e he (Disk.place?_join_inj (hplain e he) (by decide) hplace hleads.place?)
  have hscaffolded := scaffoldRun_serves hfs hplain hdistinct hmodes c
  simp only [hload] at hexit
  rcases hrun : scaffoldRun fs t (c, d) with ⟨result, c', d'⟩
  simp only [hrun] at hscaffolded hexit
  obtain ⟨rfl, hrewrote⟩ | ⟨pre, path, rules, post, cause, hentries, rfl, habout, hrewrote⟩ :=
    hscaffolded
  · refine ⟨fun e he => by simp [scaffolded, hrun] at he, fun _ => ?_⟩
    obtain ⟨hafter, hwritten⟩ := save_of_rewrote hstorage c' hleads hother hrewrote
    rcases hsave : Config.save storage (Path.join dir Config.fileName) c' d' with ⟨answer, d''⟩
    have hsaved : saved = (answer, d'') := by simp only [saved, scaffolded, hrun, hsave]
    simp only [hsave] at hexit hafter hwritten
    rw [hsaved]
    rcases answer with e | u <;> obtain ⟨hcode, hstate⟩ := Prod.mk.inj hexit
    · exact ⟨hstate ▸ hafter, fun _ _ => hcode, nofun⟩
    · refine ⟨hstate ▸ hafter, nofun, fun hok => ⟨hcode, ?_⟩⟩
      simpa only [run, hstate, scaffolded, hrun] using hwritten hok
  · refine ⟨fun e he => ?_, fun hok => ?_⟩
    · obtain rfl : ScaffoldError.imageSubstitution cause = e := by
        simpa [scaffolded, hrun] using he
      obtain ⟨hone, hstate⟩ := Prod.mk.inj hexit
      refine ⟨hone, ?_, pre, path, rules, post, cause, hentries, rfl, habout, hstate ▸ hrewrote⟩
      rw [hstate]
      refine (hrewrote.kept _ (fun hopen => ?_) fun e he => ?_).trans hleads.file?
      · exact hother (path, rules) (by simp [hentries]) hopen.2
      · exact hother e (by simp [hentries, he])
    · simp [scaffolded, hrun] at hok

end

/-- **`init` writes the document last.** Where calls may fail, and what they answer is else what is
on the disk:

* if the document cannot be read, nothing changes;
* if a file cannot be substituted, the document is as it was, and the files before that one in the
  table went through their rules;
* if the document cannot be written, the files of the table went through their rules;
* if all goes well, they did, and the document has the marker if it has a place for it.

Nothing else changes. The exit code is 0 if all went well and else 1, and the line on standard
output is there exactly then. -/
theorem run_init {files : (root : String) → FileSystem (StateM Disk)}
    {storage : Storage (StateM Disk)} (hfiles : ∀ root, (files root).Serves root)
    (hstorage : storage.Serves) {arguments : List String} {debug : Bool} {dir : String}
    (hrequest : Request.ofArguments arguments = .run debug (.init dir)) (set : Option String)
    {d : Disk} (hmodes : d.KeepsPermissions) :
    let document := Path.join dir Config.fileName
    let loaded := (Config.load storage document d).1
    let run := Cli.run files storage set arguments d
    (∀ e, loaded = .error e → run.1.exit = 1 ∧ run.2 = d) ∧
      (∀ c, loaded = .ok c → ∃ at_ f, d.place? document = some at_ ∧ d.file? at_ = some f ∧
        let scaffolded := scaffoldRun (files dir) OpenShift.table (c, d)
        let noted := if c.version = Config.version3 then
          { c with plugins := Dict.insert markerKey [] c.plugins } else c
        let saved := (Config.save storage document noted scaffolded.2.2).1
        (∀ e, scaffolded.1 = .error e → run.1.exit = 1 ∧ run.2.file? at_ = some f ∧
          ∃ pre path rules post cause, OpenShift.table.entries = pre ++ (path, rules) :: post ∧
            e = .imageSubstitution cause ∧ cause.path? = some path ∧
            d.Rewrote dir pre
              (fun other => (∃ e, cause = .write path e) ∧
                d.place? (Path.join dir path) = some other) run.2) ∧
        (scaffolded.1 = .ok () →
          d.Rewrote dir OpenShift.table.entries (· = at_) run.2 ∧
            (∀ e, saved = .error e → run.1.exit = 1) ∧
            (saved = .ok () → run.1.exit = 0 ∧
              run.2.file? at_ = some ⟨Utf8.ofString noted.text, f.mode⟩))) ∧
      OpenShift.table.paths =
        [OpenShift.dockerfilePath, OpenShift.authProxyPatchPath, OpenShift.goModPath] ∧
      run.1.output =
        if run.1.exit = 0 then
          "Updated " ++ dir ++ " for OpenShift (" ++ toString 3 ++ " files checked)\n" else "" := by
  intro document loaded run
  have hrun : run = init (files dir) storage (Filter.choose debug set) dir d := by
    simp only [run, Cli.run, hrequest]
  rw [init_eq_steps] at hrun
  have hexit := exit_steps OpenShift.table (files dir) storage (Filter.choose debug set) dir d
  obtain ⟨hunchanged, hread⟩ := Disk.load_serves hstorage document d
  refine ⟨?_, ?_, OpenShift.paths_table, ?_⟩
  · intro e hload
    rcases hloaded : Config.load storage document d with ⟨answer, d₁⟩
    obtain rfl : d₁ = d := by
      rw [hloaded] at hunchanged
      exact hunchanged
    obtain rfl : answer = .error e := by
      simpa [loaded, hloaded] using hload
    simp only [← hrun, document, hloaded] at hexit
    exact Prod.mk.inj hexit
  · intro c hload
    obtain ⟨names, f, hleads, -⟩ := hread c hload
    refine ⟨Disk.place names, f, hleads.place?, hleads.file?, ?_⟩
    intro scaffolded noted saved
    have hloaded : Config.load storage document d = (.ok c, d) := Prod.ext hload hunchanged
    have hsteps := steps_of_loaded (hfiles dir) hstorage
      (fun _ => OpenShift.plain_of_mem_table) OpenShift.nodup_paths_table
      (fun _ => OpenShift.ne_fileName_of_mem_table) hmodes hloaded hleads (Filter.choose debug set)
    obtain ⟨-, -, hnoted⟩ := scaffoldRun_document (files dir) OpenShift.table c d
    rw [← hrun] at hsteps
    refine ⟨hsteps.1, fun hok => ?_⟩
    have hconfig : scaffolded.2.1 = noted := hnoted hok
    obtain ⟨hrewrote, herror, hsaved⟩ := hsteps.2 hok
    rw [hconfig] at herror hsaved
    exact ⟨hrewrote, herror, hsaved⟩
  · have houtput := output_steps OpenShift.table (files dir) storage (Filter.choose debug set) dir d
    rwa [← hrun, OpenShift.size_table] at houtput

/-- A small project in version 3. -/
def smallProject : Disk where
  files :=
    [("Dockerfile", ⟨Utf8.ofString "FROM golang:1.19\n", 0o755⟩),
      ("PROJECT.toml", ⟨Utf8.ofString "version = \"3\"\n", 0o600⟩),
      ("config/default/manager_auth_proxy_patch.yaml", ⟨Utf8.ofString "kind: Deployment\n", 0o644⟩),
      ("go.mod", ⟨Utf8.ofString "go 1.19\n", 0o644⟩)]

theorem run_init_smallProject :
    Request.ofArguments ["init"] = .run false (.init ".") ∧ smallProject.KeepsPermissions ∧
      (Cli.run Disk.fileSystem Disk.storage none ["init"] smallProject).1.output =
        "Updated . for OpenShift (3 files checked)\n" := by
  have hrequest : Request.ofArguments ["init"] = .run false (.init ".") := by decide +kernel
  have hmodes : smallProject.KeepsPermissions := by decide
  have hexit : (Cli.run Disk.fileSystem Disk.storage none ["init"] smallProject).1.exit = 0 := by
    decide +kernel
  obtain ⟨-, -, -, houtput⟩ :=
    run_init Disk.serves_fileSystem Disk.serves_storage hrequest none hmodes
  rw [hexit] at houtput
  exact ⟨hrequest, hmodes, houtput⟩

end Cli

end Downstream
