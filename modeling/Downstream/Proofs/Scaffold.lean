import Downstream.Scaffold

/-!
# The scaffold step with a document beside the files

Where the project document is kept beside the files, substitutions do not see it
(`run_substituteAll_beside`), and recording the marker never fails (`run_recordMarker`): either the
document has a place for it, or it is left as it is. So the scaffold step is the substitutions, and
then `Config.marked` for the document (`run_scaffold`).
-/

namespace Downstream

variable {σ : Type} {m : Type → Type} [Monad m]

/-- The document with the marker recorded, if it has a place for it. -/
def Config.marked (c : Config) : Config :=
  match c.encode markerKey .empty with
  | .ok c => c
  | .error _ => c

theorem Config.marked_of_supportsPlugins {c : Config} (h : c.supportsPlugins = true) :
    c.marked = { c with plugins := Dict.insert markerKey [] c.plugins } := by
  simp only [marked, encode, if_pos h]
  rfl

theorem Config.marked_of_not_supportsPlugins {c : Config} (h : ¬c.supportsPlugins = true) :
    c.marked = c := by
  simp only [marked, encode, if_neg h]

/-- Recording the marker again changes nothing. -/
theorem Config.marked_marked (c : Config) : c.marked.marked = c.marked := by
  by_cases h : c.supportsPlugins = true
  · have h' : c.marked.supportsPlugins = true := by
      rw [marked_of_supportsPlugins h]
      exact h
    rw [marked_of_supportsPlugins h', marked_of_supportsPlugins h]
    simp only [Dict.insert_insert String.lt_irrefl]
  · rw [marked_of_not_supportsPlugins h, marked_of_not_supportsPlugins h]

/-- The events of recording the marker. -/
def Config.markerEvents (c : Config) : List Event :=
  if c.supportsPlugins then [] else [.markerSkipped markerKey]

/-! ## Running beside a document -/

variable [LawfulMonad m]

/-- Recording the marker never fails. -/
theorem run_recordMarker (c : Config) :
    (recordMarker Config.store : StateT Config m _).run c =
      pure ((.ok (), c.markerEvents), c.marked) := by
  by_cases h : c.supportsPlugins = true
  · have hencode : c.encode markerKey .empty =
        .ok { c with plugins := Dict.insert markerKey [] c.plugins } := by
      simp only [Config.encode, if_pos h]
      rfl
    have hstore : (Config.store.encode markerKey .empty : StateT Config m _).run c =
        pure (.ok (), c.marked) := by
      rw [Config.marked_of_supportsPlugins h]
      simp only [Config.store, StateT.run, hencode]
    rw [recordMarker, StateT.run_bind, hstore, Config.markerEvents, if_pos h]
    simp
  · have hencode : c.encode markerKey .empty = .error (.unsupportedField c.version "plugins") := by
      simp only [Config.encode, if_neg h]
    have hstore : (Config.store.encode markerKey .empty : StateT Config m _).run c =
        pure (.error (.unsupportedField c.version "plugins"), c.marked) := by
      rw [Config.marked_of_not_supportsPlugins h]
      simp only [Config.store, StateT.run, hencode]
    rw [recordMarker, StateT.run_bind, hstore, Config.markerEvents, if_neg h]
    simp [ConfigError.isUnsupportedField]

theorem run_substitute_beside (fs : FileSystem m) (path : String) (rules : List Rule) (s : σ) :
    (substitute fs.beside path rules).run s = do return (← substitute fs path rules, s) := by
  simp only [substitute, FileSystem.beside, StateT.run_bind, StateT.run_lift, bind_assoc, pure_bind]
  refine bind_congr fun answer => ?_
  cases answer with
  | error e => simp
  | ok content =>
    simp only [StateT.run_bind, StateT.run_lift, bind_assoc, pure_bind]
    refine bind_congr fun answer => ?_
    cases answer with
    | error e => simp
    | ok mode =>
      simp only [StateT.run_bind, StateT.run_lift, bind_assoc, pure_bind]
      refine bind_congr fun answer => ?_
      cases answer <;> simp

/-- **Substitutions do not see what is kept beside the files.** -/
theorem run_substituteAll_beside (fs : FileSystem m) (entries : List (String × List Rule)) (s : σ) :
    (substituteAll fs.beside entries).run s = do return (← substituteAll fs entries, s) := by
  induction entries with
  | nil => simp [substituteAll]
  | cons e rest ih =>
    simp only [substituteAll, StateT.run_bind, run_substitute_beside, bind_assoc, pure_bind]
    refine bind_congr fun answer => ?_
    obtain ⟨result, events⟩ := answer
    cases result with
    | error e => simp
    | ok u => simp [ih]

/-- **The scaffold step is the substitutions, and then the marker.** -/
theorem run_scaffold (fs : FileSystem m) (t : Table) (c : Config) :
    (scaffold fs.beside Config.store t).run c = do
      match ← replaceImages fs t with
      | (.error e, events) => return ((.error (.imageSubstitution e), events), c)
      | (.ok (), events) =>
        return ((.ok (), events ++ c.markerEvents ++ [.finished t.size]), c.marked) := by
  simp only [scaffold, replaceImages, StateT.run_bind, run_substituteAll_beside, bind_assoc,
    pure_bind]
  refine bind_congr fun answer => ?_
  obtain ⟨result, events⟩ := answer
  cases result with
  | error e => simp
  | ok u => simp [run_recordMarker]

/-! ## The result and the states after a run -/

/-- A run of the scaffold step on a document and on files: the result, and both after the run. -/
def scaffoldRun (fs : FileSystem (StateM σ)) (t : Table) (s : Config × σ) :
    Except ScaffoldError Unit × (Config × σ) :=
  let run := ((scaffold fs.beside Config.store t).run s.1).run s.2
  (run.1.1.1, (run.1.2, run.2))

theorem scaffoldRun_eq (fs : FileSystem (StateM σ)) (t : Table) (s : Config × σ) :
    scaffoldRun fs t s =
      match replaceImages fs t s.2 with
      | ((.error e, _), files) => (.error (.imageSubstitution e), (s.1, files))
      | ((.ok (), _), files) => (.ok (), (s.1.marked, files)) := by
  rw [scaffoldRun, run_scaffold, StateT.run_bind]
  rcases hrun : (replaceImages fs t).run s.2 with ⟨⟨e | u, events⟩, files⟩
  · rw [show replaceImages fs t s.2 = _ from hrun]
    rfl
  · rw [show replaceImages fs t s.2 = _ from hrun]
    rfl

end Downstream
