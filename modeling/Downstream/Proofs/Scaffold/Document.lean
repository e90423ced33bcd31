import Downstream.Files.Memory
import Downstream.Proofs.Project.Rewritten
import Downstream.Proofs.Scaffold

/-!
# What a document holds after any operations

The settings in a document change in two ways: a payload is put under a key, or the scaffold step
puts the marker there (`Operation`). Either may fail, and in whatever order they come, the document
is the one it was at the start with the settings recorded that were put there successfully
(`runAll_document`). From this follows what is kept: the document stays valid, nothing but its
settings changes, and of the settings for a key the last ones count (`runAll_invariant`).
-/

namespace Downstream

variable {σ : Type}

/-! ## Entries one after the other -/

namespace Dict

variable {κ α : Type} [LT κ] [DecidableLT κ] [DecidableEq κ]

omit [LT κ] [DecidableLT κ] in
theorem find?_append (k : κ) (a b : Dict κ α) :
    find? k (a ++ b) = (find? k a).or (find? k b) := by
  induction a with
  | nil => rfl
  | cons e a ih =>
    obtain ⟨k', v⟩ := e
    by_cases hk : k = k'
    · simp [find?, hk]
    · simp [find?, hk, ih]

/-- Of entries that are inserted one after the other, the last one under a key counts. -/
theorem find?_foldl_insert (k : κ) (l d : Dict κ α) :
    find? k (l.foldl (fun d e => insert e.1 e.2 d) d) = (find? k l.reverse).or (find? k d) := by
  induction l generalizing d with
  | nil => rfl
  | cons e l ih =>
    have hinsert : find? k (insert e.1 e.2 d) = (find? k [e]).or (find? k d) := by
      by_cases hk : k = e.1
      · rw [hk, find?_insert_self, find?, if_pos rfl, Option.some_or]
      · rw [find?_insert_of_ne hk, find?, if_neg hk, find?, Option.none_or]
    rw [List.foldl_cons, ih, List.reverse_cons, find?_append, Option.or_assoc, hinsert]

end Dict

/-! ## Settings that are recorded -/

namespace Config

variable {c d : Config} {key : String} {payload : Payload}

/-- The document with settings recorded, one after the other. -/
def withSettings (c : Config) (entries : List (String × Toml.Table)) : Config :=
  { c with plugins := entries.foldl (fun d e => Dict.insert e.1 e.2 d) c.plugins }

theorem withSettings_append (c : Config) (entries more : List (String × Toml.Table)) :
    c.withSettings (entries ++ more) = (c.withSettings entries).withSettings more := by
  simp only [withSettings, List.foldl_append]

theorem ordered_withSettings (h : Dict.Ordered c.plugins) (entries : List (String × Toml.Table)) :
    Dict.Ordered (c.withSettings entries).plugins := by
  induction entries generalizing c with
  | nil => exact h
  | cons e entries ih =>
    exact ih (c := { c with plugins := Dict.insert e.1 e.2 c.plugins })
      (Dict.ordered_insert (fun _ _ _ => String.lt_trans) Std.lt_trichotomy e.1 e.2 h)

theorem plugin?_withSettings (c : Config) (entries : List (String × Toml.Table)) (key : String) :
    (c.withSettings entries).plugin? key =
      (Dict.find? key entries.reverse).or (c.plugin? key) :=
  Dict.find?_foldl_insert key entries c.plugins

/-- Recording settings keeps a document valid that has a place for them. -/
theorem validate_withSettings {entries : List (String × Toml.Table)} (h : c.validate = .ok ())
    (hnil : c.version ≠ version3 → entries = []) : (c.withSettings entries).validate = .ok () := by
  by_cases hversion : c.version = version3
  · have hversion : (c.withSettings entries).version = version3 := hversion
    rw [validate, if_pos hversion]
  · rw [hnil hversion]
    exact h

/-- A valid document of version 2 has no settings. -/
theorem plugins_eq_nil (h : c.validate = .ok ()) (hversion : c.version = version2) :
    c.plugins = [] := by
  have hne : version2 ≠ version3 := by decide
  rw [validate, hversion, if_neg hne, if_pos rfl] at h
  split at h
  next hempty => exact List.isEmpty_iff.1 hempty
  next => cases h

/-- A document to start from: a new one, or one that was read. -/
def Original (c : Config) : Prop :=
  c = initial ∨ ∃ path text, parse path text = .ok c

theorem Original.validate (h : c.Original) : c.validate = .ok () := by
  rcases h with rfl | ⟨path, text, h⟩
  · rfl
  · exact (sound_of_parse h).2

theorem Original.ordered (h : c.Original) : Dict.Ordered c.plugins := by
  rcases h with rfl | ⟨path, text, h⟩
  · exact .nil
  · exact (sound_of_parse h).1.ordered

/-- What a call that puts a payload under a key records: nothing if it fails. -/
def recorded? (c : Config) (key : String) (payload : Payload) : Option (String × Toml.Table) :=
  match c.encode key payload with
  | .ok _ => payload.table?.map (key, ·)
  | .error _ => none

/-- The document after a call that puts a payload under a key, whether it fails or not. -/
def after (c : Config) (key : String) (payload : Payload) : Config :=
  match c.encode key payload with
  | .ok d => d
  | .error _ => c

/-- **A call that puts a payload under a key changes what it records**, and nothing else. -/
theorem after_eq (c : Config) (key : String) (payload : Payload) :
    c.after key payload = c.withSettings (c.recorded? key payload).toList := by
  unfold after recorded?
  cases h : c.encode key payload with
  | error e => rfl
  | ok d =>
    obtain ⟨-, t, ht, rfl⟩ := encode_eq_ok_iff.1 h
    rw [ht]
    rfl

theorem version_of_recorded? {e : String × Toml.Table} (h : c.recorded? key payload = some e) :
    c.version = version3 := by
  unfold recorded? at h
  cases hencode : c.encode key payload with
  | error => simp [hencode] at h
  | ok d => exact (encode_eq_ok_iff.1 hencode).1

end Config

/-! ## Operations -/

/-- What can be done with a document that is kept beside files. -/
inductive Operation (σ : Type) where
  /-- A payload is put under a key. -/
  | encode (key : String) (payload : Payload)
  /-- The scaffold step is run. The files may refuse any of its calls. -/
  | scaffold (fs : FileSystem (StateM σ)) (t : Table)

/-- Why an operation failed. -/
inductive OperationError where
  | encode (cause : ConfigError)
  | scaffold (cause : ScaffoldError)

namespace Operation

/-- Does an operation: the result, and the document and the files after it. -/
def run : Operation σ → Config × σ → Except OperationError Unit × (Config × σ)
  | encode key payload, (c, files) =>
    let (result, c) := (Config.store.encode key payload : StateM Config _).run c
    (result.mapError .encode, (c, files))
  | scaffold fs t, s =>
    let (result, s) := scaffoldRun fs t s
    (result.mapError .scaffold, s)

/-- The call for a document that an operation makes. The scaffold step makes one after all
substitutions were made. -/
def call? : Operation σ → σ → Option (String × Payload)
  | encode key payload, _ => some (key, payload)
  | scaffold fs t, files =>
    match replaceImages fs t files with
    | ((.ok (), _), _) => some (markerKey, .empty)
    | ((.error _, _), _) => none

/-- What an operation records in a document. -/
def recorded? (op : Operation σ) (s : Config × σ) : Option (String × Toml.Table) :=
  (op.call? s.2).bind fun call => s.1.recorded? call.1 call.2

theorem run_encode (key : String) (payload : Payload) (s : Config × σ) :
    (encode key payload).run s =
      match s.1.encode key payload with
      | .ok d => (.ok (), (d, s.2))
      | .error e => (.error (.encode e), s) := by
  simp only [run, Config.store, StateT.run]
  cases s.1.encode key payload <;> rfl

theorem run_scaffold (fs : FileSystem (StateM σ)) (t : Table) (s : Config × σ) :
    (scaffold fs t).run s =
      match replaceImages fs t s.2 with
      | ((.ok (), _), files) => (.ok (), (s.1.after markerKey .empty, files))
      | ((.error e, _), files) => (.error (.scaffold (.imageSubstitution e)), (s.1, files)) := by
  simp only [run, scaffoldRun_eq]
  rcases replaceImages fs t s.2 with ⟨⟨e | u, events⟩, files⟩ <;> rfl

/-- **One operation changes of a document what it records there**, and nothing else. -/
theorem run_document (op : Operation σ) (s : Config × σ) :
    (op.run s).2.1 = s.1.withSettings (op.recorded? s).toList := by
  cases op with
  | encode key payload =>
    have hrun : ((encode key payload).run s).2.1 = s.1.after key payload := by
      rw [run_encode, Config.after]
      cases s.1.encode key payload <;> rfl
    exact hrun.trans (s.1.after_eq key payload)
  | scaffold fs t =>
    rw [run_scaffold, recorded?, call?]
    rcases replaceImages fs t s.2 with ⟨⟨e | u, events⟩, files⟩
    · rfl
    · exact s.1.after_eq markerKey .empty

/-- **An operation that fails leaves the document as it was.** -/
theorem document_of_run_eq_error {op : Operation σ} {s : Config × σ} {e : OperationError}
    (h : (op.run s).1 = .error e) : (op.run s).2.1 = s.1 := by
  cases op with
  | encode key payload =>
    rw [run_encode] at h ⊢
    cases hencode : s.1.encode key payload with
    | error => rfl
    | ok d => simp [hencode] at h
  | scaffold fs t =>
    rw [run_scaffold] at h ⊢
    rcases hrun : replaceImages fs t s.2 with ⟨⟨e | u, events⟩, files⟩
    · rfl
    · simp [hrun] at h

theorem version_of_recorded? {op : Operation σ} {s : Config × σ} {e : String × Toml.Table}
    (h : op.recorded? s = some e) : s.1.version = Config.version3 := by
  obtain ⟨call, -, hcall⟩ := Option.bind_eq_some_iff.1 h
  exact Config.version_of_recorded? hcall

/-- The document and the files after operations, one after the other. -/
def runAll : List (Operation σ) → Config × σ → Config × σ
  | [], s => s
  | op :: ops, s => runAll ops (op.run s).2

/-- What operations record, in order. -/
def recorded : List (Operation σ) → Config × σ → List (String × Toml.Table)
  | [], _ => []
  | op :: ops, s => (op.recorded? s).toList ++ recorded ops (op.run s).2

/-- **A document after any operations is the one at the start with what they recorded.** -/
theorem runAll_document (ops : List (Operation σ)) (s : Config × σ) :
    (runAll ops s).1 = s.1.withSettings (recorded ops s) := by
  induction ops generalizing s with
  | nil => rfl
  | cons op ops ih => rw [runAll, recorded, ih, run_document, Config.withSettings_append]

/-- Only documents of version 3 have anything recorded. -/
theorem recorded_eq_nil {ops : List (Operation σ)} {s : Config × σ}
    (h : s.1.version ≠ Config.version3) : recorded ops s = [] := by
  induction ops generalizing s with
  | nil => rfl
  | cons op ops ih =>
    have hnone : op.recorded? s = none := by
      rw [Option.eq_none_iff_forall_ne_some]
      exact fun e he => h (version_of_recorded? he)
    have hversion : (op.run s).2.1.version ≠ Config.version3 := by
      rw [run_document]
      exact h
    rw [recorded, hnone, ih hversion]
    rfl

/-- **What any operations keep of a document.** However they go, the document is still valid, and
its version, domain, name and layout are those of the start. Under each key it has the settings that
were recorded there last, or else those of the start; so one of version 2 has none. The next
operation, if it fails, leaves all of it as it is. -/
theorem runAll_invariant {start : Config} (hstart : start.Original) (ops : List (Operation σ))
    (files : σ) :
    let s := runAll ops (start, files)
    s.1.validate = .ok () ∧
      (s.1.version = start.version ∧ s.1.domain = start.domain ∧
        s.1.projectName = start.projectName ∧ s.1.layout = start.layout) ∧
      (Dict.Ordered s.1.plugins ∧ ∀ key, s.1.plugin? key =
        (Dict.find? key (recorded ops (start, files)).reverse).or (start.plugin? key)) ∧
      (start.version = Config.version2 → s.1.plugins = []) ∧
      ∀ (op : Operation σ) e, (op.run s).1 = .error e → (op.run s).2.1 = s.1 := by
  intro s
  have hdocument : s.1 = start.withSettings (recorded ops (start, files)) :=
    runAll_document ops (start, files)
  have hvalid : s.1.validate = .ok () := by
    rw [hdocument]
    exact Config.validate_withSettings hstart.validate fun hversion =>
      recorded_eq_nil (s := (start, files)) hversion
  refine ⟨hvalid, ?_, ⟨?_, fun key => ?_⟩, fun hversion => ?_,
    fun op e he => document_of_run_eq_error he⟩
  · rw [hdocument]
    exact ⟨rfl, rfl, rfl, rfl⟩
  · rw [hdocument]
    exact Config.ordered_withSettings hstart.ordered _
  · rw [hdocument, Config.plugin?_withSettings]
  · refine Config.plugins_eq_nil hvalid ?_
    rw [hdocument]
    exact hversion

/-- Settings that are no table, and a scaffold step that misses a file, leave no trace between calls
that succeed. -/
theorem runAll_invariant_mixed :
    let settings (channel : String) : Payload := .object [("channel", .string channel)]
    let missing : Table := Table.empty.insert "Dockerfile" []
    let ops : List (Operation Memory) :=
      [encode "a" (settings "alpha"), encode "a" .null, scaffold Memory.fileSystem missing,
        encode "b" (.object [("size", .integer (Int64.maxValue.toInt + 1))]),
        scaffold Memory.fileSystem .empty, encode "a" (settings "stable")]
    let document := (runAll ops (Config.initial, {})).1
    Config.initial.Original ∧ document.validate = .ok () ∧
      document.plugin? "a" = some [("channel", .string "stable")] ∧
      document.plugin? "b" = none ∧ document.plugin? markerKey = some [] := by
  intro settings missing ops document
  have horiginal : Config.initial.Original := Or.inl rfl
  obtain ⟨hvalid, -, ⟨-, hplugin⟩, -⟩ := runAll_invariant horiginal ops {}
  have hrecorded : recorded ops (Config.initial, {}) =
      [("a", [("channel", .string "alpha")]), (markerKey, []),
        ("a", [("channel", .string "stable")])] := by
    rfl
  rw [hrecorded] at hplugin
  exact ⟨horiginal, hvalid, hplugin "a", hplugin "b", hplugin markerKey⟩

end Operation

end Downstream
