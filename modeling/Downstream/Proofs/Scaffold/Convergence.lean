import Downstream.Proofs.OpenShift.Settled
import Downstream.Proofs.Scaffold
import Downstream.Proofs.Substitution.Interrupted

/-!
# Scaffolding again and again

The scaffold step may be run several times, and each run may be interrupted by failing calls. Every
run leaves the document and the files in a state from which a complete run leads to the same end
(`Underway`), as an interrupted run has done a front part of the work and the rules of a file change
nothing the second time. So the first run that succeeds leaves what a single run would have left,
for any table whose rules can be repeated (`faultyRun_of_repeatable`), as those of the built-in one
can (`OpenShift.repeatable_table`).
-/

namespace Downstream

/-- A run of the scaffold step on files in memory. Those calls fail, before they reach the files,
for which there is a fault. No two calls of a run are alike, so these may be any calls. -/
def faultyRun (t : Table) (fault : FileCall → Option FileError) (s : Config × Memory) :
    Except ScaffoldError Unit × (Config × Memory) :=
  scaffoldRun (Memory.fileSystem.failing fault) t s

/-- The document and the files after several runs, one after the other. -/
def afterRuns (t : Table) (faults : List (FileCall → Option FileError)) (s : Config × Memory) :
    Config × Memory :=
  faults.foldl (fun s fault => (faultyRun t fault s).2) s

/-- No two entries of a table name one file, and the rules of each change nothing the second
time. -/
structure Table.Repeatable (t : Table) : Prop where
  distinct : t.entries.Pairwise fun a b => ¬Path.Same a.1 b.1
  idempotent : ∀ e ∈ t.entries, ∀ content,
    applyRules e.2 (applyRules e.2 content) = applyRules e.2 content

variable {t : Table} {m : Memory} {s s' s'' : Config × Memory}

/-! ## One run -/

/-- Nothing in the files keeps a run from succeeding. -/
structure Table.Ready (t : Table) (m : Memory) : Prop where
  writable : t.entries ≠ [] → m.readOnly = false
  holds : ∀ e ∈ t.entries, m.Holds e

theorem Table.ready_after {entries : List (String × List Rule)} :
    t.Ready (m.after entries) ↔ t.Ready m :=
  ⟨fun h => ⟨h.writable, fun e he => Memory.holds_after.1 (h.holds e he)⟩,
    fun h => ⟨h.writable, fun e he => Memory.holds_after.2 (h.holds e he)⟩⟩

theorem substituteAll_of_ready (h : t.Ready m) :
    (substituteAll Memory.fileSystem t.entries m).2 = m.after t.entries ∧
      (substituteAll Memory.fileSystem t.entries m).1.1 = .ok () := by
  by_cases hnil : t.entries = []
  · rw [hnil, Memory.after_nil]
    exact ⟨rfl, rfl⟩
  · have happend := substituteAll_append (h.writable hnil) h.holds []
    rw [List.append_nil] at happend
    exact happend

theorem scaffoldRun_of_ready (h : t.Ready s.2) :
    scaffoldRun Memory.fileSystem t s = (.ok (), (s.1.marked, s.2.after t.entries)) := by
  obtain ⟨hstate, hresult⟩ := substituteAll_of_ready h
  rw [scaffoldRun_eq, replaceImages]
  rcases hrun : substituteAll Memory.fileSystem t.entries s.2 with ⟨⟨result, events⟩, m⟩
  rw [hrun] at hstate hresult
  obtain rfl : result = .ok () := hresult
  obtain rfl : m = s.2.after t.entries := hstate
  rfl

/-- From `s'`, a complete run leads to where it leads from `s`. -/
structure Underway (t : Table) (s s' : Config × Memory) : Prop where
  document : s'.1.marked = s.1.marked
  files : s'.2.after t.entries = s.2.after t.entries
  ready : t.Ready s'.2 → t.Ready s.2

theorem Underway.refl (s : Config × Memory) : Underway t s s := ⟨rfl, rfl, id⟩

theorem Underway.trans (h : Underway t s s') (h' : Underway t s' s'') : Underway t s s'' :=
  ⟨h'.document.trans h.document, h'.files.trans h.files, fun hr => h.ready (h'.ready hr)⟩

/-- **A run, however interrupted, keeps the way to the end**, and if it succeeds it is there. -/
theorem faultyRun_underway (ht : t.Repeatable) (fault : FileCall → Option FileError)
    (s : Config × Memory) :
    Underway t s (faultyRun t fault s).2 ∧
      ((faultyRun t fault s).1 = .ok () →
        t.Ready s.2 ∧ (faultyRun t fault s).2 = (s.1.marked, s.2.after t.entries)) := by
  obtain ⟨pre, hpre, hstate, hok⟩ := substituteAll_failing fault s.2 t.entries
  have habsorb := Memory.after_after_of_isPrefix ht.distinct ht.idempotent hpre s.2
  rw [faultyRun, scaffoldRun_eq, replaceImages]
  rcases hrun : substituteAll (Memory.fileSystem.failing fault) t.entries s.2 with
    ⟨⟨result, events⟩, m⟩
  rw [hrun] at hstate hok
  obtain rfl : m = s.2.after pre := hstate
  cases result with
  | error e =>
    exact ⟨⟨rfl, habsorb, Table.ready_after.1⟩, fun h => by cases h⟩
  | ok u =>
    obtain ⟨rfl, hwritable, hholds⟩ := hok rfl
    exact ⟨⟨s.1.marked_marked, habsorb, Table.ready_after.1⟩,
      fun _ => ⟨⟨hwritable, hholds⟩, rfl⟩⟩

/-! ## Several runs -/

theorem underway_afterRuns (ht : t.Repeatable) (faults : List (FileCall → Option FileError))
    (s : Config × Memory) : Underway t s (afterRuns t faults s) := by
  induction faults generalizing s with
  | nil => exact .refl s
  | cons fault faults ih => exact (faultyRun_underway ht fault s).1.trans (ih _)

/-- The state after a run that succeeds depends on where the runs started only. -/
theorem faultyRun_of_underway (ht : t.Repeatable) {fault : FileCall → Option FileError}
    (hway : Underway t s s') (h : (faultyRun t fault s').1 = .ok ()) :
    t.Ready s.2 ∧ (faultyRun t fault s').2 = (s.1.marked, s.2.after t.entries) := by
  obtain ⟨hready, hend⟩ := (faultyRun_underway ht fault s').2 h
  exact ⟨hway.ready hready, by rw [hend, hway.document, hway.files]⟩

/-- **Scaffolding converges**, for a table whose rules can be repeated. -/
theorem faultyRun_of_repeatable (ht : t.Repeatable) (faults : List (FileCall → Option FileError))
    (fault : FileCall → Option FileError) (s : Config × Memory)
    (h : (faultyRun t fault (afterRuns t faults s)).1 = .ok ()) :
    let last := (faultyRun t fault (afterRuns t faults s)).2
    scaffoldRun Memory.fileSystem t s = (.ok (), last) ∧
      ∀ faults' fault', (faultyRun t fault' (afterRuns t faults' last)).1 = .ok () →
        (faultyRun t fault' (afterRuns t faults' last)).2 = last := by
  intro last
  have hway := underway_afterRuns ht faults s
  obtain ⟨hready, hlast⟩ := faultyRun_of_underway ht hway h
  refine ⟨(scaffoldRun_of_ready hready).trans (by rw [← hlast]), fun faults' fault' h' => ?_⟩
  have hway' := (hway.trans (faultyRun_underway ht fault _).1).trans
    (underway_afterRuns ht faults' last)
  exact (faultyRun_of_underway ht hway' h').2.trans hlast.symm

/-! ## The built-in table -/

namespace OpenShift

theorem repeatable_table : table.Repeatable where
  distinct := by
    have hpaths : [dockerfilePath, authProxyPatchPath, goModPath].Pairwise fun a b =>
        ¬Path.Same a b := by decide
    have hkeys : table.entries.map Prod.fst = [dockerfilePath, authProxyPatchPath, goModPath] := by
      rw [entries_table]
      rfl
    rw [← hkeys, List.pairwise_map] at hpaths
    exact hpaths
  idempotent _ he := applyRules_applyRules he

/-- **Scaffolding converges.** When a run succeeds, whatever runs came before it and whichever of
their calls failed, the document and the files are those that one run without failures leaves, which
succeeds too; and no later run that succeeds changes them. -/
theorem faultyRun_converges (faults : List (FileCall → Option FileError))
    (fault : FileCall → Option FileError) (s : Config × Memory)
    (h : (faultyRun table fault (afterRuns table faults s)).1 = .ok ()) :
    let last := (faultyRun table fault (afterRuns table faults s)).2
    scaffoldRun Memory.fileSystem table s = (.ok (), last) ∧
      ∀ faults' fault', (faultyRun table fault' (afterRuns table faults' last)).1 = .ok () →
        (faultyRun table fault' (afterRuns table faults' last)).2 = last :=
  faultyRun_of_repeatable repeatable_table faults fault s h

theorem eq_ok_of_isOk {ε : Type} {r : Except ε Unit} (h : r.isOk = true) : r = .ok () := by
  cases r with
  | error e => cases h
  | ok u => rfl

/-- A run that could not write the last file is made up for by the next one. -/
theorem faultyRun_converges_unwritten :
    let unwritten : FileCall → Option FileError := fun call =>
      match call with
      | .write path _ _ => if path = goModPath then some (.system .interrupted) else none
      | _ => none
    let files := Memory.insert {} dockerfilePath (Utf8.ofString "FROM golang:1.19") 0o644
      |>.insert authProxyPatchPath [] 0o600 |>.insert goModPath (Utf8.ofString "go 1.19") 0o644
    let s := (Config.initial, files)
    (faultyRun table unwritten s).1.isOk = false ∧
      scaffoldRun Memory.fileSystem table s =
        (.ok (), (faultyRun table (fun _ => none) (afterRuns table [unwritten] s)).2) := by
  intro unwritten files s
  have hok : (faultyRun table (fun _ => none) (afterRuns table [unwritten] s)).1.isOk = true := by
    decide +kernel
  refine ⟨by decide +kernel, ?_⟩
  exact (faultyRun_converges [unwritten] (fun _ => none) s (eq_ok_of_isOk hok)).1

end OpenShift

end Downstream
