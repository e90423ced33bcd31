import Downstream.Proofs.Substitution.Memory

/-!
# Interrupted runs

A run on files in memory, of which any calls may fail before they reach the files
(`FileSystem.failing`), leaves the files as they are after a front part of the entries, and it
succeeds only if this is all of them (`substituteAll_failing`).

`Memory.after` absorbs such front parts, if no two entries name one file and the rules of each entry
change nothing the second time (`Memory.after_after_of_isPrefix`).
-/

namespace Downstream

variable {m : Memory} {path : String} {rules : List Rule} {e : String × List Rule}
  {entries pre post : List (String × List Rule)}

/-! ## Calls that may fail -/

section

variable (fault : FileCall → Option FileError)

theorem read_failing (m : Memory) (path : String) :
    (∃ e, (Memory.fileSystem.failing fault).read path m = (.error e, m)) ∨
      ∃ f, m.file? path = some f ∧
        (Memory.fileSystem.failing fault).read path m = (.ok f.content, m) := by
  simp only [FileSystem.failing]
  cases fault (.read path) with
  | some e => exact Or.inl ⟨e, rfl⟩
  | none =>
    cases hf : m.file? path with
    | none => exact Or.inl ⟨_, Memory.read_of_missing hf⟩
    | some f => exact Or.inr ⟨f, rfl, Memory.read_of_file? hf⟩

theorem stat_failing {f : MemoryFile} (hf : m.file? path = some f) :
    (∃ e, (Memory.fileSystem.failing fault).stat path m = (.error e, m)) ∨
      (Memory.fileSystem.failing fault).stat path m = (.ok f.mode, m) := by
  simp only [FileSystem.failing]
  cases fault (.stat path) with
  | some e => exact Or.inl ⟨e, rfl⟩
  | none => exact Or.inr (Memory.stat_of_file? hf)

theorem write_failing (m : Memory) (path : String) (content : Bytes) (mode : Mode) :
    (∃ e, (Memory.fileSystem.failing fault).write path content mode m = (.error e, m)) ∨
      (m.readOnly = false ∧
        (Memory.fileSystem.failing fault).write path content mode m =
          (.ok (), m.insert path content mode)) := by
  simp only [FileSystem.failing]
  cases fault (.write path content mode) with
  | some e => exact Or.inl ⟨e, rfl⟩
  | none =>
    cases hreadOnly : m.readOnly with
    | true => exact Or.inl ⟨_, Memory.write_of_readOnly hreadOnly content mode⟩
    | false => exact Or.inr ⟨rfl, Memory.write_of_writable hreadOnly content mode⟩

/-! ## Runs with failing calls -/

/-- The run over one file ends without a change, or the file is substituted. -/
theorem substitute_failing (m : Memory) (path : String) (rules : List Rule) :
    let run := substitute (Memory.fileSystem.failing fault) path rules m
    ((∃ e, run.1.1 = .error e) ∧ run.2 = m) ∨
      (run.1.1 = .ok () ∧ run.2 = m.after [(path, rules)] ∧ m.readOnly = false ∧
        m.Holds (path, rules)) := by
  intro run
  rcases read_failing fault m path with ⟨e, hread⟩ | ⟨f, hf, hread⟩
  · simp only [run, substitute, bind, StateT.bind, hread]
    exact Or.inl ⟨⟨_, rfl⟩, rfl⟩
  rcases stat_failing fault hf with ⟨e, hstat⟩ | hstat
  · simp only [run, substitute, bind, StateT.bind, hread, hstat]
    exact Or.inl ⟨⟨_, rfl⟩, rfl⟩
  rcases write_failing fault m path (applyRules rules f.content) f.mode with
    ⟨e, hwrite⟩ | ⟨hwritable, hwrite⟩
  · simp only [run, substitute, bind, StateT.bind, hread, hstat, hwrite]
    exact Or.inl ⟨⟨_, rfl⟩, rfl⟩
  · simp only [run, substitute, bind, StateT.bind, hread, hstat, hwrite, Memory.insert_eq_after hf]
    exact Or.inr ⟨rfl, rfl, hwritable, by simp [Memory.Holds, hf]⟩

/-- **An interrupted run leaves the files as they are after a front part of the entries.** -/
theorem substituteAll_failing (m : Memory) (entries : List (String × List Rule)) :
    let run := substituteAll (Memory.fileSystem.failing fault) entries m
    ∃ pre, pre <+: entries ∧ run.2 = m.after pre ∧
      (run.1.1 = .ok () →
        pre = entries ∧ (entries ≠ [] → m.readOnly = false) ∧ ∀ e ∈ entries, m.Holds e) := by
  induction entries generalizing m with
  | nil =>
    exact ⟨[], List.prefix_rfl, (m.after_nil).symm,
      fun _ => ⟨rfl, fun hne => absurd rfl hne, fun _ he => nomatch he⟩⟩
  | cons e entries ih =>
    obtain ⟨path, rules⟩ := e
    intro run
    rcases hfile : substitute (Memory.fileSystem.failing fault) path rules m with
      ⟨⟨result, events⟩, m'⟩
    have hstep := substitute_failing fault m path rules
    simp only [hfile] at hstep
    rcases hstep with ⟨⟨e, rfl⟩, rfl⟩ | ⟨rfl, rfl, hwritable, hholds⟩
    · simp only [run, substituteAll, bind, StateT.bind, hfile]
      exact ⟨[], List.nil_prefix, (m'.after_nil).symm, fun h => by cases h⟩
    · simp only [run, substituteAll, bind, StateT.bind, hfile]
      obtain ⟨pre, hpre, hstate, hok⟩ := ih (m.after [(path, rules)])
      refine ⟨(path, rules) :: pre, List.cons_prefix_cons.2 ⟨rfl, hpre⟩,
        hstate.trans (Memory.after_cons m _ pre), fun h => ?_⟩
      obtain ⟨rfl, -, hall⟩ := hok h
      refine ⟨rfl, fun _ => hwritable, fun e he => ?_⟩
      rcases List.mem_cons.1 he with rfl | he
      · exact hholds
      · exact Memory.holds_after.1 (hall e he)

end

/-! ## Front parts of the entries -/

section

variable (hdistinct : entries.Pairwise fun a b => ¬Path.Same a.1 b.1)

include hdistinct

/-- At most one entry names a file, so a front part has all its rules or none. -/
theorem rulesAt_of_isPrefix (h : pre <+: entries) (path : String) :
    rulesAt pre path = [] ∨ rulesAt pre path = rulesAt entries path := by
  induction entries generalizing pre with
  | nil =>
    rw [List.prefix_nil.1 h]
    exact Or.inl rfl
  | cons e entries ih =>
    obtain ⟨hhead, hrest⟩ := List.pairwise_cons.1 hdistinct
    rcases List.prefix_cons_iff.1 h with rfl | ⟨pre, rfl, hpre⟩
    · exact Or.inl rfl
    · by_cases hs : Path.Same e.1 path
      · have hother : ∀ e' ∈ entries, ¬Path.Same e'.1 path := fun e' he' hs' =>
          hhead e' he' (hs.trans hs'.symm)
        refine Or.inr ?_
        rw [rulesAt, rulesAt, List.flatMap_cons, List.flatMap_cons, ← rulesAt, ← rulesAt,
          rulesAt_eq_nil hother, rulesAt_eq_nil fun e' he' => hother e' (hpre.subset he')]
      · have hskip : ∀ l, rulesAt (e :: l) path = rulesAt l path := fun l => by
          rw [rulesAt, List.flatMap_cons, if_neg hs, List.nil_append, ← rulesAt]
        rw [hskip, hskip]
        exact ih hrest hpre

theorem rulesAt_cases (path : String) :
    rulesAt entries path = [] ∨ ∃ e ∈ entries, rulesAt entries path = e.2 := by
  by_cases h : ∃ e ∈ entries, Path.Same e.1 path
  · obtain ⟨e, he, hs⟩ := h
    obtain ⟨l, r, rfl⟩ := List.append_of_mem he
    obtain ⟨-, hright, hleft⟩ := List.pairwise_append.1 hdistinct
    refine Or.inr ⟨e, he, ?_⟩
    have hl : ∀ e' ∈ l, ¬Path.Same e'.1 path := fun e' he' hs' =>
      hleft e' he' e List.mem_cons_self (hs'.trans hs.symm)
    have hr : ∀ e' ∈ r, ¬Path.Same e'.1 path := fun e' he' hs' =>
      (List.pairwise_cons.1 hright).1 e' he' (hs.trans hs'.symm)
    rw [rulesAt, List.flatMap_append, List.flatMap_cons, ← rulesAt, ← rulesAt, rulesAt_eq_nil hl,
      rulesAt_eq_nil hr, if_pos hs, List.nil_append, List.append_nil]
  · exact Or.inl (rulesAt_eq_nil fun e he hs => h ⟨e, he, hs⟩)

/-- **A run over all entries makes up for a run that was interrupted.** -/
theorem Memory.after_after_of_isPrefix
    (hidem : ∀ e ∈ entries, ∀ content,
      applyRules e.2 (applyRules e.2 content) = applyRules e.2 content)
    (h : pre <+: entries) (m : Memory) : (m.after pre).after entries = m.after entries := by
  rw [after_append, after, after]
  congr 1
  funext path content
  rw [rulesAt, List.flatMap_append, ← rulesAt, ← rulesAt, applyRules_append]
  rcases rulesAt_of_isPrefix hdistinct h path with hpre | hpre
  · rw [hpre, applyRules_nil]
  · rw [hpre]
    rcases rulesAt_cases hdistinct path with hnil | ⟨e, he, hrules⟩
    · rw [hnil, applyRules_nil, applyRules_nil]
    · rw [hrules, hidem e he]

end

end Downstream
