import Downstream.Proofs.Scaffold
import Downstream.Proofs.Substitution.Protocol

/-!
# What the scaffold step asks for

Which calls the scaffold step makes of the files and of the store of settings, in what order, and
what its result and its events have to do with the answers, for any file system and any store
whatever. `ScaffoldRecord` is all that is seen of a run: its calls with their answers, its result,
its events, and the states before and after it.

* Noting calls changes no answer (`FileSystem.Simulates.substituteAll`), so the calls of the files
  are those of the substitutions (`replaceImages_noted`).
* A run is the substitutions and then at most one call of the store (`scaffoldRecord_of_error`,
  `scaffoldRecord_of_ok`), from which `ScaffoldRecord.Lawful` follows, run by run.
-/

namespace Downstream

variable {σ τ : Type}

/-! ## Simulation -/

/-- Two file systems answer alike, along a relation of their states. -/
structure FileSystem.Simulates (R : σ → τ → Prop) (fs : FileSystem (StateM σ))
    (fs' : FileSystem (StateM τ)) : Prop where
  read : ∀ path {s t}, R s t →
    (fs.read path s).1 = (fs'.read path t).1 ∧ R (fs.read path s).2 (fs'.read path t).2
  stat : ∀ path {s t}, R s t →
    (fs.stat path s).1 = (fs'.stat path t).1 ∧ R (fs.stat path s).2 (fs'.stat path t).2
  write : ∀ path content mode {s t}, R s t →
    (fs.write path content mode s).1 = (fs'.write path content mode t).1 ∧
      R (fs.write path content mode s).2 (fs'.write path content mode t).2

namespace FileSystem.Simulates

variable {R : σ → τ → Prop} {fs : FileSystem (StateM σ)} {fs' : FileSystem (StateM τ)}
  {s : σ} {t : τ}

theorem substitute (h : Simulates R fs fs') (path : String) (rules : List Rule) (hst : R s t) :
    (substitute fs path rules s).1 = (Downstream.substitute fs' path rules t).1 ∧
      R (Downstream.substitute fs path rules s).2 (Downstream.substitute fs' path rules t).2 := by
  obtain ⟨hanswer, hst⟩ := h.read path hst
  rcases hread : fs.read path s with ⟨e | content, s₁⟩ <;>
    rcases hread' : fs'.read path t with ⟨answer, t₁⟩ <;>
    rw [hread, hread'] at hanswer hst <;>
    obtain rfl : _ = answer := hanswer
  · simp only [Downstream.substitute, bind, StateT.bind, hread, hread']
    exact ⟨rfl, hst⟩
  obtain ⟨hanswer, hst⟩ := h.stat path hst
  rcases hstat : fs.stat path s₁ with ⟨e | mode, s₂⟩ <;>
    rcases hstat' : fs'.stat path t₁ with ⟨answer, t₂⟩ <;>
    rw [hstat, hstat'] at hanswer hst <;>
    obtain rfl : _ = answer := hanswer
  · simp only [Downstream.substitute, bind, StateT.bind, hread, hread', hstat, hstat']
    exact ⟨rfl, hst⟩
  obtain ⟨hanswer, hst⟩ := h.write path (applyRules rules content) mode hst
  rcases hwrite : fs.write path (applyRules rules content) mode s₂ with ⟨e | u, s₃⟩ <;>
    rcases hwrite' : fs'.write path (applyRules rules content) mode t₂ with ⟨answer, t₃⟩ <;>
    rw [hwrite, hwrite'] at hanswer hst <;>
    obtain rfl : _ = answer := hanswer <;>
    simp only [Downstream.substitute, bind, StateT.bind, hread, hread', hstat, hstat', hwrite,
      hwrite']
  · exact ⟨rfl, hst⟩
  · exact ⟨rfl, hst⟩

/-- **Substitutions do not tell file systems apart that answer alike.** -/
theorem substituteAll (h : Simulates R fs fs') (entries : List (String × List Rule))
    (hst : R s t) :
    (substituteAll fs entries s).1 = (Downstream.substituteAll fs' entries t).1 ∧
      R (Downstream.substituteAll fs entries s).2 (Downstream.substituteAll fs' entries t).2 := by
  induction entries generalizing s t with
  | nil => exact ⟨rfl, hst⟩
  | cons e rest ih =>
    obtain ⟨path, rules⟩ := e
    obtain ⟨hanswer, hst⟩ := h.substitute path rules hst
    rcases hfile : Downstream.substitute fs path rules s with ⟨⟨e | u, events⟩, s₁⟩ <;>
      rcases hfile' : Downstream.substitute fs' path rules t with ⟨answer, t₁⟩ <;>
      rw [hfile, hfile'] at hanswer hst <;>
      obtain rfl : _ = answer := hanswer <;>
      simp only [Downstream.substituteAll, bind, StateT.bind, hfile, hfile']
    · exact ⟨rfl, hst⟩
    · obtain ⟨hanswer, hst⟩ := ih hst
      exact ⟨congrArg (fun r => (r.1, events ++ r.2)) hanswer, hst⟩

end FileSystem.Simulates

/-! ## Records of a run -/

/-- A call of the files or of the store, with its answer. -/
inductive Interaction where
  | file (x : Exchange)
  | store (key : String) (payload : Payload) (answer : Except ConfigError Unit)

/-- Passes every call on, and notes it with its answer, the first one first. -/
def FileSystem.noted (fs : FileSystem (StateM σ)) : FileSystem (StateM (σ × List Interaction)) where
  read path := fun (s, log) =>
    let (answer, s) := fs.read path s
    (answer, s, log ++ [.file (.read path answer)])
  stat path := fun (s, log) =>
    let (answer, s) := fs.stat path s
    (answer, s, log ++ [.file (.stat path answer)])
  write path content mode := fun (s, log) =>
    let (answer, s) := fs.write path content mode s
    (answer, s, log ++ [.file (.write path content mode answer)])

/-- Passes every call on, and notes it with its answer. -/
def PluginStore.noted (store : PluginStore (StateM σ)) :
    PluginStore (StateM (σ × List Interaction)) where
  encode key payload := fun (s, log) =>
    let (answer, s) := store.encode key payload s
    (answer, s, log ++ [.store key payload answer])

/-- What is seen of a run of the scaffold step. -/
structure ScaffoldRecord (σ : Type) where
  before : σ
  interactions : List Interaction
  result : Except ScaffoldError Unit
  events : List Event
  after : σ

variable (fs : FileSystem (StateM σ)) (store : PluginStore (StateM σ)) (t : Table)

/-- A run of the scaffold step, from a state of the files and of the store. -/
def scaffoldRecord (s : σ) : ScaffoldRecord σ :=
  let run := scaffold fs.noted store.noted t (s, [])
  ⟨s, run.2.2, run.1.1, run.1.2, run.2.1⟩

/-- Several runs of the scaffold step, one after the other. -/
def scaffoldRecords : (count : Nat) → σ → List (ScaffoldRecord σ)
  | 0, _ => []
  | count + 1, s =>
    let r := scaffoldRecord fs store t s
    r :: scaffoldRecords count r.after

theorem exists_of_mem_scaffoldRecords {count : Nat} {s : σ} {r : ScaffoldRecord σ}
    (h : r ∈ scaffoldRecords fs store t count s) : ∃ s', r = scaffoldRecord fs store t s' := by
  induction count generalizing s with
  | zero => cases h
  | succ count ih =>
    rcases List.mem_cons.1 h with rfl | h
    · exact ⟨s, rfl⟩
    · exact ih h

/-! ## The parts of a run -/

/-- The calls of the files and their answers, seen in either row. -/
theorem simulates_noted :
    FileSystem.Simulates (fun (s : σ × List Exchange) (s' : σ × List Interaction) =>
      s' = (s.1, s.2.map .file)) fs.recorded fs.noted where
  read := by
    rintro path s _ rfl
    rcases hread : fs.read path s.1 with ⟨answer, s'⟩
    simp [FileSystem.recorded, FileSystem.noted, hread]
  stat := by
    rintro path s _ rfl
    rcases hstat : fs.stat path s.1 with ⟨answer, s'⟩
    simp [FileSystem.recorded, FileSystem.noted, hstat]
  write := by
    rintro path content mode s _ rfl
    rcases hwrite : fs.write path content mode s.1 with ⟨answer, s'⟩
    simp [FileSystem.recorded, FileSystem.noted, hwrite]

/-- The calls of the files are those of the substitutions. -/
theorem replaceImages_noted (s : σ) :
    let images := replaceImages fs.recorded t (s, [])
    replaceImages fs.noted t (s, []) = (images.1, images.2.1, images.2.2.map .file) := by
  obtain ⟨hanswer, hstate⟩ :=
    (simulates_noted fs).substituteAll t.entries (s := (s, [])) (t := (s, [])) rfl
  exact Prod.ext hanswer.symm hstate

/-- What a run ends with after the substitutions, given what the store answers. -/
def Table.conclusion (t : Table) : Except ConfigError Unit → Except ScaffoldError Unit × List Event
  | .ok () => (.ok (), [.finished t.size])
  | .error e =>
    if e.isUnsupportedField then (.ok (), [.markerSkipped markerKey, .finished t.size])
    else (.error (.pluginConfig markerKey e), [])

/-- The store records the marker, or it has no place for it, or it fails. -/
theorem Table.conclusion_cases (t : Table) (answer : Except ConfigError Unit) :
    (answer = .ok () ∧ t.conclusion answer = (.ok (), [.finished t.size])) ∨
      (∃ version field, answer = .error (.unsupportedField version field) ∧
        t.conclusion answer = (.ok (), [.markerSkipped markerKey, .finished t.size])) ∨
      ∃ e, answer = .error e ∧ (∀ version field, e ≠ .unsupportedField version field) ∧
        t.conclusion answer = (.error (.pluginConfig markerKey e), []) := by
  rcases answer with e | u
  · cases e with
    | unsupportedField version field => exact Or.inr (Or.inl ⟨version, field, rfl, rfl⟩)
    | _ => exact Or.inr (Or.inr ⟨_, rfl, by simp, rfl⟩)
  · exact Or.inl ⟨rfl, rfl⟩

section

variable {t} {answer : Except ConfigError Unit}

theorem Table.conclusion_ne_imageSubstitution (e : SubstitutionError) :
    (t.conclusion answer).1 ≠ .error (.imageSubstitution e) := by
  rcases t.conclusion_cases answer with ⟨-, h⟩ | ⟨_, _, -, h⟩ | ⟨_, -, -, h⟩ <;> simp [h]

theorem Table.conclusion_eq_pluginConfig_iff {key : String} {e : ConfigError} :
    (t.conclusion answer).1 = .error (.pluginConfig key e) ↔
      key = markerKey ∧ answer = .error e ∧ ∀ version field, e ≠ .unsupportedField version field := by
  rcases t.conclusion_cases answer with ⟨rfl, h⟩ | ⟨version, field, rfl, h⟩ | ⟨e', rfl, hother, h⟩
  · simp [h]
  · rw [h]
    refine ⟨fun h => (by cases h), fun ⟨_, he, hne⟩ => ?_⟩
    cases he
    exact absurd rfl (hne version field)
  · rw [h]
    constructor
    · rintro ⟨⟩
      exact ⟨rfl, rfl, hother⟩
    · rintro ⟨rfl, ⟨⟩, -⟩
      rfl

theorem Table.conclusion_eq_ok_iff :
    (t.conclusion answer).1 = .ok () ↔
      answer = .ok () ∨ ∃ version field, answer = .error (.unsupportedField version field) := by
  rcases t.conclusion_cases answer with ⟨rfl, h⟩ | ⟨version, field, rfl, h⟩ | ⟨e', rfl, hother, h⟩ <;>
    simp_all

theorem Table.finished_mem_conclusion_iff {files : Nat} :
    .finished files ∈ (t.conclusion answer).2 ↔
      files = t.size ∧ (t.conclusion answer).1 = .ok () := by
  rcases t.conclusion_cases answer with ⟨-, h⟩ | ⟨_, _, -, h⟩ | ⟨_, -, -, h⟩ <;> simp [h]

theorem Table.markerSkipped_mem_conclusion_iff {key : String} :
    .markerSkipped key ∈ (t.conclusion answer).2 ↔
      key = markerKey ∧ ∃ version field, answer = .error (.unsupportedField version field) := by
  rcases t.conclusion_cases answer with ⟨rfl, h⟩ | ⟨version, field, rfl, h⟩ | ⟨e', rfl, hother, h⟩ <;>
    simp_all

end

/-- **The scaffold step is the substitutions, and then one call of the store.** -/
theorem scaffold_eq (s : σ) :
    scaffold fs store t s =
      match replaceImages fs t s with
      | ((.error e, events), s) => ((.error (.imageSubstitution e), events), s)
      | ((.ok (), events), s) =>
        let answer := store.encode markerKey .empty s
        (((t.conclusion answer.1).1, events ++ (t.conclusion answer.1).2), answer.2) := by
  rcases himages : replaceImages fs t s with ⟨⟨e | u, events⟩, s₁⟩
  · simp only [scaffold, bind, StateT.bind, himages]
    rfl
  rcases hanswer : store.encode markerKey .empty s₁ with ⟨e | u, s₂⟩
  · by_cases h : e.isUnsupportedField = true
    · simp only [scaffold, recordMarker, bind, StateT.bind, himages, hanswer, Table.conclusion,
        if_pos h, List.append_assoc]
      rfl
    · simp only [scaffold, recordMarker, bind, StateT.bind, himages, hanswer, Table.conclusion,
        if_neg h]
      rfl
  · simp only [scaffold, recordMarker, bind, StateT.bind, himages, hanswer, Table.conclusion,
      List.append_assoc]
    rfl

/-- Whether an event is about a file. -/
def Event.isAboutFile : Event → Bool
  | .applied .. => true
  | .rewrote .. => true
  | _ => false

theorem isAboutFile_of_mem_ruleEvents {path : String} {rules : List Rule} {content : Bytes}
    {e : Event} (h : e ∈ ruleEvents path rules content) : e.isAboutFile = true := by
  obtain ⟨⟨r, result⟩, -, he⟩ := List.mem_filterMap.1 h
  obtain ⟨_, -, rfl⟩ := Option.map_eq_some_iff.1 he
  rfl

theorem isAboutFile_of_mem_substitute (path : String) (rules : List Rule) (s : σ) :
    ∀ e ∈ (substitute fs path rules s).1.2, e.isAboutFile = true := by
  rcases hread : fs.read path s with ⟨e | content, s₁⟩
  · simp only [substitute, bind, StateT.bind, hread]
    intro e he
    cases he
  rcases hstat : fs.stat path s₁ with ⟨e | mode, s₂⟩
  · simp only [substitute, bind, StateT.bind, hread, hstat]
    intro e he
    cases he
  rcases hwrite : fs.write path (applyRules rules content) mode s₂ with ⟨e | u, s₃⟩ <;>
    simp only [substitute, bind, StateT.bind, hread, hstat, hwrite]
  · exact fun e he => isAboutFile_of_mem_ruleEvents he
  · intro e he
    rcases List.mem_append.1 he with he | he
    · exact isAboutFile_of_mem_ruleEvents he
    · rw [List.mem_singleton.1 he]
      rfl

/-- The events of substitutions are about files. -/
theorem isAboutFile_of_mem_substituteAll (entries : List (String × List Rule)) (s : σ) :
    ∀ e ∈ (substituteAll fs entries s).1.2, e.isAboutFile = true := by
  induction entries generalizing s with
  | nil => exact fun e he => nomatch he
  | cons entry rest ih =>
    have hfirst := isAboutFile_of_mem_substitute fs entry.1 entry.2 s
    rcases hfile : substitute fs entry.1 entry.2 s with ⟨⟨e | u, events⟩, s'⟩ <;>
      rw [hfile] at hfirst <;>
      simp only [substituteAll, bind, StateT.bind, hfile]
    · exact hfirst
    · intro e he
      rcases List.mem_append.1 he with he | he
      · exact hfirst e he
      · exact ih s' e he

/-! ## Every run -/

/-- What a run of the scaffold step does, given the answer of the store in it, `none` if the store
was not asked. -/
structure ScaffoldRecord.Lawful (r : ScaffoldRecord σ) (answer? : Option (Except ConfigError Unit)) :
    Prop where
  /-- Noting the calls has no part in the run. -/
  unnoted : ((r.result, r.events), r.after) = scaffold fs store t r.before
  /-- The calls of the files are those of the substitutions. After them the store is asked, once at
  most, and always the same. -/
  interactions : r.interactions = (replaceImages fs.recorded t (r.before, [])).2.2.map .file ++
    (answer?.map (.store markerKey .empty)).toList
  /-- The store is asked if the substitutions were made, and only then. -/
  asked : answer?.isSome ↔ (replaceImages fs t r.before).1.1 = .ok ()
  answered : ∀ answer, answer? = some answer →
    (answer, r.after) = store.encode markerKey .empty (replaceImages fs t r.before).2
  untouched : answer? = none → r.after = (replaceImages fs t r.before).2
  imageSubstitution_iff : ∀ e, r.result = .error (.imageSubstitution e) ↔
    (replaceImages fs t r.before).1.1 = .error e
  pluginConfig_iff : ∀ key e, r.result = .error (.pluginConfig key e) ↔
    key = markerKey ∧ answer? = some (.error e) ∧ ∀ version field, e ≠ .unsupportedField version field
  ok_iff : r.result = .ok () ↔
    answer? = some (.ok ()) ∨ ∃ version field, answer? = some (.error (.unsupportedField version field))
  finished_mem_iff : ∀ files, .finished files ∈ r.events ↔ files = t.size ∧ r.result = .ok ()
  markerSkipped_mem_iff : ∀ key, .markerSkipped key ∈ r.events ↔
    key = markerKey ∧ ∃ version field, answer? = some (.error (.unsupportedField version field))

theorem scaffoldRecord_of_error {s s' : σ} {e : SubstitutionError} {events : List Event}
    (h : replaceImages fs t s = ((.error e, events), s')) :
    scaffoldRecord fs store t s =
      ⟨s, (replaceImages fs.recorded t (s, [])).2.2.map .file, .error (.imageSubstitution e), events,
        s'⟩ := by
  obtain ⟨hresult, hstate⟩ := replaceImages_unrecorded fs t s
  have hrun := scaffold_eq fs.noted store.noted t (s, [])
  rw [replaceImages_noted, hresult, hstate, h] at hrun
  rw [scaffoldRecord, hrun]

theorem scaffoldRecord_of_ok {s s' : σ} {events : List Event}
    (h : replaceImages fs t s = ((.ok (), events), s')) :
    let answer := store.encode markerKey .empty s'
    scaffoldRecord fs store t s =
      ⟨s, (replaceImages fs.recorded t (s, [])).2.2.map .file ++ [.store markerKey .empty answer.1],
        (t.conclusion answer.1).1, events ++ (t.conclusion answer.1).2, answer.2⟩ := by
  obtain ⟨hresult, hstate⟩ := replaceImages_unrecorded fs t s
  have hrun := scaffold_eq fs.noted store.noted t (s, [])
  rw [replaceImages_noted, hresult, hstate, h] at hrun
  rw [scaffoldRecord, hrun]
  rfl

/-- Events that are not about files come from the end of a run. -/
theorem mem_append_iff_of_isAboutFile {events more : List Event} {x : Event}
    (hevents : ∀ e ∈ events, e.isAboutFile = true) (hx : x.isAboutFile = false) :
    x ∈ events ++ more ↔ x ∈ more := by
  refine ⟨fun h => (List.mem_append.1 h).resolve_left fun hmem => ?_, List.mem_append_right events⟩
  rw [hevents x hmem] at hx
  cases hx

/-- **What one run does**, from any state. -/
theorem scaffoldRecord_lawful (s : σ) :
    ∃ answer?, (scaffoldRecord fs store t s).Lawful fs store t answer? := by
  have hevents := isAboutFile_of_mem_substituteAll fs t.entries s
  have hplain := scaffold_eq fs store t s
  rw [← replaceImages] at hevents
  rcases himages : replaceImages fs t s with ⟨⟨e | u, events⟩, s'⟩ <;>
    rw [himages] at hevents hplain
  · refine ⟨none, ?_⟩
    rw [scaffoldRecord_of_error fs store t himages]
    constructor <;> simp [himages, hplain]
    · exact fun files h => Bool.false_ne_true (hevents _ h)
    · exact fun key h => Bool.false_ne_true (hevents _ h)
  · refine ⟨some (store.encode markerKey .empty s').1, ?_⟩
    rw [scaffoldRecord_of_ok fs store t himages]
    exact {
      unnoted := hplain.symm
      interactions := rfl
      asked := by simp [himages]
      answered := by
        rintro _ ⟨⟩
        rw [himages]
        rfl
      untouched := fun h => by cases h
      imageSubstitution_iff := fun e => by
        rw [himages]
        exact ⟨fun h => absurd h (Table.conclusion_ne_imageSubstitution e), fun h => by cases h⟩
      pluginConfig_iff := fun key e => by
        simpa using Table.conclusion_eq_pluginConfig_iff
      ok_iff := by simpa using Table.conclusion_eq_ok_iff
      finished_mem_iff := fun files =>
        (mem_append_iff_of_isAboutFile hevents rfl).trans Table.finished_mem_conclusion_iff
      markerSkipped_mem_iff := fun key => by
        simpa using
          (mem_append_iff_of_isAboutFile hevents rfl).trans Table.markerSkipped_mem_conclusion_iff }

/-- A run whose store is a project document. -/
theorem scaffoldRun_document (c : Config) (s : σ) :
    let run := scaffoldRun fs t (c, s)
    (∀ key e, run.1 ≠ .error (.pluginConfig key e)) ∧
      (run.1 ≠ .ok () → run.2.1 = c) ∧
      (run.1 = .ok () → run.2.1 =
        if c.version = Config.version3 then { c with plugins := Dict.insert markerKey [] c.plugins }
        else c) := by
  intro run
  have hrun : run = _ := scaffoldRun_eq fs t (c, s)
  rcases himages : replaceImages fs t s with ⟨⟨e | u, events⟩, s'⟩ <;>
    simp only [himages] at hrun <;>
    rw [hrun]
  · exact ⟨nofun, fun _ => rfl, nofun⟩
  · refine ⟨nofun, fun h => absurd rfl h, fun _ => ?_⟩
    by_cases h : c.version = Config.version3
    · rw [if_pos h]
      exact Config.marked_of_supportsPlugins (by simp [Config.supportsPlugins, h])
    · rw [if_neg h]
      exact Config.marked_of_not_supportsPlugins (by simp [Config.supportsPlugins, h])

/-- **Substituting, recording the marker, done.** Every run of several is lawful, whatever the files
and the store answer. Where the store is a project document, of any version and after whatever runs,
recording the marker does not fail: after a run that succeeds the document has the marker if its
version has a place for it, and else it is as it was. -/
theorem scaffoldRecords_lawful (count : Nat) (s : σ) :
    (∀ r ∈ scaffoldRecords fs store t count s, ∃ answer?, r.Lawful fs store t answer?) ∧
      ∀ (c : Config) (s : σ),
        let run := scaffoldRun fs t (c, s)
        (∀ key e, run.1 ≠ .error (.pluginConfig key e)) ∧
          (run.1 ≠ .ok () → run.2.1 = c) ∧
          (run.1 = .ok () → run.2.1 =
            if c.version = Config.version3 then
              { c with plugins := Dict.insert markerKey [] c.plugins }
            else c) := by
  refine ⟨fun r hr => ?_, scaffoldRun_document fs t⟩
  obtain ⟨s', rfl⟩ := exists_of_mem_scaffoldRecords fs store t hr
  exact scaffoldRecord_lawful fs store t s'

end Downstream
