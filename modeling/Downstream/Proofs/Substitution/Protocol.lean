import Downstream.Proofs.Files.Recorded
import Downstream.Proofs.Text.Order
import Downstream.Substitution.Apply

/-!
# The calls that a substitution makes

Which calls `replaceImages` makes, in what order, and what its result has to do with the answers,
for any file system whatever. `Exchanged` lists what can be exchanged about one file, and
`Protocol` what can be exchanged in a whole run with its result.

* One file is exchanged about as `Exchanged` says (`substitute_recorded`), and a run as `Protocol`
  says (`substituteAll_recorded`), by induction over the entries.
* What follows for the calls of a run is put together at the end.
-/

namespace Downstream

open Exchange (target failure?)

/-- What is exchanged about one file, with the result. -/
inductive Exchanged (path : String) (rules : List Rule) :
    List Exchange → Except SubstitutionError Unit → Prop
  | unread (e : FileError) :
    Exchanged path rules [.read path (.error e)] (.error (.read path e))
  | unexamined (content : Bytes) (e : FileError) :
    Exchanged path rules [.read path (.ok content), .stat path (.error e)]
      (.error (.stat path e))
  | unwritten (content : Bytes) (mode : Mode) (e : FileError) :
    Exchanged path rules
      [.read path (.ok content), .stat path (.ok mode),
        .write path (applyRules rules content) mode (.error e)]
      (.error (.write path e))
  | rewritten (content : Bytes) (mode : Mode) :
    Exchanged path rules
      [.read path (.ok content), .stat path (.ok mode),
        .write path (applyRules rules content) mode (.ok ())]
      (.ok ())

/-- What is exchanged in a run over some entries, with the result. -/
inductive Protocol :
    List (String × List Rule) → List Exchange → Except SubstitutionError Unit → Prop
  | done : Protocol [] [] (.ok ())
  | failed {path rules rest log e} (h : Exchanged path rules log (.error e)) :
    Protocol ((path, rules) :: rest) log (.error e)
  | next {path rules rest log log' result} (h : Exchanged path rules log (.ok ()))
    (hrest : Protocol rest log' result) : Protocol ((path, rules) :: rest) (log ++ log') result

variable {σ : Type} {entries : List (String × List Rule)} {log : List Exchange}
  {result : Except SubstitutionError Unit}

/-! ## One file -/

/-- The exchange about one file, which does not depend on being noted. -/
theorem substitute_recorded (fs : FileSystem (StateM σ)) (path : String) (rules : List Rule)
    (s : σ) (log : List Exchange) :
    ∃ new, substitute fs.recorded path rules (s, log) =
        ((substitute fs path rules s).1, (substitute fs path rules s).2, log ++ new) ∧
      Exchanged path rules new (substitute fs path rules s).1.1 := by
  rcases hread : fs.read path s with ⟨e | content, s₁⟩
  · refine ⟨[.read path (.error e)], ?_, ?_⟩ <;>
      simp only [substitute, bind, StateT.bind, FileSystem.recorded, hread]
    · rfl
    · exact .unread e
  rcases hstat : fs.stat path s₁ with ⟨e | mode, s₂⟩
  · refine ⟨[.read path (.ok content), .stat path (.error e)], ?_, ?_⟩ <;>
      simp only [substitute, bind, StateT.bind, FileSystem.recorded, hread, hstat]
    · rw [List.append_assoc]
      rfl
    · exact .unexamined content e
  rcases hwrite : fs.write path (applyRules rules content) mode s₂ with ⟨e | _, s₃⟩
  · refine ⟨[.read path (.ok content), .stat path (.ok mode),
      .write path (applyRules rules content) mode (.error e)], ?_, ?_⟩ <;>
      simp only [substitute, bind, StateT.bind, FileSystem.recorded, hread, hstat, hwrite]
    · rw [List.append_assoc, List.append_assoc]
      rfl
    · exact .unwritten content mode e
  · refine ⟨[.read path (.ok content), .stat path (.ok mode),
      .write path (applyRules rules content) mode (.ok ())], ?_, ?_⟩ <;>
      simp only [substitute, bind, StateT.bind, FileSystem.recorded, hread, hstat, hwrite]
    · rw [List.append_assoc, List.append_assoc]
      rfl
    · exact .rewritten content mode

namespace Exchanged

variable {path : String} {rules : List Rule}

theorem targets_of_ok (h : Exchanged path rules log (.ok ())) :
    log.map target = [(.read, path), (.stat, path), (.write, path)] := by
  cases h
  rfl

theorem length_of_ok (h : Exchanged path rules log (.ok ())) : log.length = 3 := by
  cases h
  rfl

theorem failure?_of_ok (h : Exchanged path rules log (.ok ())) : ∀ x ∈ log, failure? x = none := by
  intro x hx
  cases h with
  | rewritten content mode =>
    simp only [List.mem_cons, List.not_mem_nil, or_false] at hx
    obtain rfl | rfl | rfl := hx <;> rfl

end Exchanged

/-! ## A run -/

/-- The exchange in a run, which does not depend on being noted. -/
theorem substituteAll_recorded (fs : FileSystem (StateM σ)) (entries : List (String × List Rule))
    (s : σ) (log : List Exchange) :
    ∃ new, substituteAll fs.recorded entries (s, log) =
        ((substituteAll fs entries s).1, (substituteAll fs entries s).2, log ++ new) ∧
      Protocol entries new (substituteAll fs entries s).1.1 := by
  induction entries generalizing s log with
  | nil => exact ⟨[], by rw [List.append_nil]; rfl, .done⟩
  | cons e rest ih =>
    obtain ⟨path, rules⟩ := e
    obtain ⟨new, hrecorded, hnew⟩ := substitute_recorded fs path rules s log
    rcases hfile : substitute fs path rules s with ⟨⟨e | _, events⟩, s'⟩
    · rw [hfile] at hrecorded hnew
      refine ⟨new, ?_, ?_⟩ <;> simp only [substituteAll, bind, StateT.bind, hrecorded, hfile]
      · rfl
      · exact .failed hnew
    · rw [hfile] at hrecorded hnew
      obtain ⟨more, hrest, hmore⟩ := ih s' (log ++ new)
      refine ⟨new ++ more, ?_, ?_⟩ <;>
        simp only [substituteAll, bind, StateT.bind, hrecorded, hfile]
      · simp only [hrest, List.append_assoc]
        rfl
      · exact .next hnew hmore

/-- Noting the calls has no part in a run. -/
theorem replaceImages_unrecorded (fs : FileSystem (StateM σ)) (t : Table) (s : σ) :
    (replaceImages fs.recorded t (s, [])).1 = (replaceImages fs t s).1 ∧
      (replaceImages fs.recorded t (s, [])).2.1 = (replaceImages fs t s).2 := by
  obtain ⟨new, hrun, -⟩ := substituteAll_recorded fs t.entries s []
  exact ⟨congrArg Prod.fst hrun, congrArg (·.2.1) hrun⟩

namespace Protocol

/-- The calls of a whole run, entry by entry. -/
def calls (entries : List (String × List Rule)) : List (FileOperation × String) :=
  entries.flatMap fun e => [(.read, e.1), (.stat, e.1), (.write, e.1)]

theorem targets (h : Protocol entries log result) : log.map target <+: calls entries := by
  induction h with
  | done => exact List.prefix_rfl
  | failed h =>
    refine List.IsPrefix.trans ?_ (List.prefix_append _ _)
    cases h with
    | unread e => exact ⟨_, rfl⟩
    | unexamined content e => exact ⟨_, rfl⟩
    | unwritten content mode e => exact ⟨_, rfl⟩
  | next h _ ih =>
    rw [List.map_append, h.targets_of_ok, calls, List.flatMap_cons]
    exact (List.prefix_append_right_inj _).2 ih

/-- No call but the last one fails. -/
theorem failure?_of_mem_dropLast (h : Protocol entries log result) :
    ∀ x ∈ log.dropLast, failure? x = none := by
  induction h with
  | done => exact fun x hx => nomatch hx
  | failed h => cases h <;> simp [failure?]
  | @next path rules rest log log' result h _ ih =>
    intro x hx
    by_cases hlog' : log' = []
    · rw [hlog', List.append_nil] at hx
      exact h.failure?_of_ok x (List.dropLast_subset log hx)
    · rw [List.dropLast_append_of_ne_nil hlog'] at hx
      rcases List.mem_append.1 hx with hx | hx
      · exact h.failure?_of_ok x hx
      · exact ih x hx

/-- The result is the failure of the last call, if it failed. -/
theorem result_eq (h : Protocol entries log result) :
    result = match log.getLast?.bind failure? with
      | some e => .error e
      | none => .ok () := by
  induction h with
  | done => rfl
  | failed h => cases h <;> rfl
  | @next path rules rest log log' result h hrest ih =>
    cases h with
    | rewritten content mode =>
      by_cases hlog' : log' = []
      · subst hlog'
        exact ih
      · rw [List.getLast?_append, List.getLast?_eq_some_getLast hlog', Option.some_or,
          ← List.getLast?_eq_some_getLast hlog']
        exact ih

/-- What is written is what the rules make of what was just read, with the permission bits that were
just found. -/
theorem exists_of_write_mem (h : Protocol entries log result) {path : String} {content : Bytes}
    {mode : Mode} {answer : Except FileError Unit} (hw : .write path content mode answer ∈ log) :
    ∃ old rules, (path, rules) ∈ entries ∧ content = applyRules rules old ∧
      [.read path (.ok old), .stat path (.ok mode), .write path content mode answer] <:+: log := by
  induction h with
  | done => cases hw
  | @failed path rules rest log e h =>
    cases h with
    | unread e => simp at hw
    | unexamined old e => simp at hw
    | unwritten old mode e =>
      simp only [List.mem_cons, reduceCtorEq, false_or, List.not_mem_nil, or_false,
        Exchange.write.injEq] at hw
      obtain ⟨rfl, rfl, rfl, rfl⟩ := hw
      exact ⟨old, rules, List.mem_cons_self, rfl, List.infix_rfl⟩
  | @next path rules rest log log' result h hrest ih =>
    rcases List.mem_append.1 hw with hw | hw
    · cases h with
      | rewritten old mode =>
        simp only [List.mem_cons, reduceCtorEq, false_or, List.not_mem_nil, or_false,
          Exchange.write.injEq] at hw
        obtain ⟨rfl, rfl, rfl, rfl⟩ := hw
        exact ⟨old, rules, List.mem_cons_self, rfl, (List.prefix_append _ _).isInfix⟩
    · obtain ⟨old, rules, hmem, hcontent, hinfix⟩ := ih hw
      exact ⟨old, rules, List.mem_cons_of_mem _ hmem, hcontent,
        hinfix.trans (List.suffix_append _ _).isInfix⟩

theorem length_of_ok (h : Protocol entries log (.ok ())) :
    log.length = 3 * entries.length ∧ ∀ x ∈ log, failure? x = none := by
  generalize hresult : (Except.ok () : Except SubstitutionError Unit) = result at h
  induction h with
  | done => exact ⟨rfl, fun x hx => nomatch hx⟩
  | failed h => cases hresult
  | next h _ ih =>
    obtain ⟨hlen, hnone⟩ := ih hresult
    refine ⟨?_, fun x hx => ?_⟩
    · rw [List.length_append, h.length_of_ok, hlen, List.length_cons]
      omega
    · rcases List.mem_append.1 hx with hx | hx
      · exact h.failure?_of_ok x hx
      · exact hnone x hx

end Protocol

/-- **The calls of a run**, whatever the file system answers. They are reading, examining and
writing the files of the table, in the order of the bytes of their paths, up to the first call that
fails, and the result is its failure. What is written is what the rules make of what was just
read, with the permission bits that were just found. -/
theorem replaceImages_recorded (fs : FileSystem (StateM σ)) (t : Table) (s : σ) :
    let run := replaceImages fs.recorded t (s, [])
    let log := run.2.2
    (run.1 = (replaceImages fs t s).1 ∧ run.2.1 = (replaceImages fs t s).2) ∧
      (t.entries.Pairwise fun a b => Utf8.ofString a.1 < Utf8.ofString b.1) ∧
      log.map target <+: Protocol.calls t.entries ∧
      (∀ x ∈ log.dropLast, failure? x = none) ∧
      (run.1.1 = match log.getLast?.bind failure? with
        | some e => .error e
        | none => .ok ()) ∧
      (∀ path content mode answer, .write path content mode answer ∈ log →
        ∃ old rules, (path, rules) ∈ t.entries ∧ content = applyRules rules old ∧
          [.read path (.ok old), .stat path (.ok mode), .write path content mode answer] <:+: log) ∧
      (run.1.1 = .ok () ↔
        log.length = 3 * t.entries.length ∧ ∀ x ∈ log, failure? x = none) := by
  intro run log
  obtain ⟨new, hrun, hprotocol⟩ := substituteAll_recorded fs t.entries s []
  have hlog : log = new := congrArg (·.2.2) hrun
  have hresult : run.1 = (replaceImages fs t s).1 := congrArg Prod.fst hrun
  have hprotocol : Protocol t.entries log run.1.1 := by
    rw [hlog, hresult]
    exact hprotocol
  refine ⟨⟨hresult, congrArg (·.2.1) hrun⟩, t.ordered.imp Utf8.ofString_lt, hprotocol.targets,
    hprotocol.failure?_of_mem_dropLast, hprotocol.result_eq,
    fun _ _ _ _ hw => hprotocol.exists_of_write_mem hw, fun hok => ?_, fun ⟨_, hnone⟩ => ?_⟩
  · rw [hok] at hprotocol
    exact hprotocol.length_of_ok
  · rw [hprotocol.result_eq]
    cases hlast : log.getLast? with
    | none => rfl
    | some x => simp [hnone x (List.mem_of_getLast? hlast)]

end Downstream
