import Downstream.Proofs.Files.Memory
import Downstream.Proofs.Substitution.Rule
import Downstream.Proofs.Text.Order
import Downstream.Substitution.Apply

/-!
# Substituting in files in memory

What `replaceImages` makes of files in memory. The table is in the order of its paths as texts, the
files are in the order of their components, and several paths of the table may denote one file; so
the state after some entries is described file by file (`Memory.after`): the content of a file goes
through the rules of all those entries whose path denotes it, in the order of the table.

* One file is substituted, or it is missing, or writing is refused (`substitute_of_present`,
  `substitute_of_missing`, `substitute_of_readOnly`).
* A run goes through the entries up to the first one without a file (`substituteAll_of_missing`,
  `substituteAll_of_present`).
-/

namespace Downstream

/-- The rules of those entries whose path denotes the same file as `path`, in order. -/
def rulesAt (entries : List (String × List Rule)) (path : String) : List Rule :=
  entries.flatMap fun e => if Path.Same e.1 path then e.2 else []

theorem rulesAt_eq_nil {entries : List (String × List Rule)} {path : String}
    (h : ∀ e ∈ entries, ¬Path.Same e.1 path) : rulesAt entries path = [] :=
  List.flatMap_eq_nil_iff.2 fun e he => if_neg (h e he)

namespace Memory

/-- The files after the rules of some entries were applied. -/
def after (m : Memory) (entries : List (String × List Rule)) : Memory :=
  m.revise fun path content => applyRules (rulesAt entries path) content

variable {m : Memory} {path : String} {rules : List Rule} {e : String × List Rule}
  {entries pre post : List (String × List Rule)}

@[simp] theorem readOnly_after (m : Memory) (entries : List (String × List Rule)) :
    (m.after entries).readOnly = m.readOnly := rfl

@[simp] theorem after_nil (m : Memory) : m.after [] = m :=
  revise_eq_self fun _ _ => rfl

theorem after_append (m : Memory) (pre post : List (String × List Rule)) :
    (m.after pre).after post = m.after (pre ++ post) := by
  rw [after, after, revise_revise, after]
  congr 1
  funext path content
  rw [rulesAt, rulesAt, rulesAt, List.flatMap_append, applyRules_append]

theorem after_cons (m : Memory) (e : String × List Rule) (entries : List (String × List Rule)) :
    (m.after [e]).after entries = m.after (e :: entries) :=
  after_append m [e] entries

/-- Writing a file that is there, after rules were applied to its content. -/
theorem insert_eq_after {f : MemoryFile} (h : m.file? path = some f) :
    m.insert path (applyRules rules f.content) f.mode = m.after [(path, rules)] := by
  rw [insert_eq_revise h (applyRules rules), after]
  congr 1
  funext path' content
  rw [rulesAt, List.flatMap_singleton]
  by_cases hs : Path.Same path path'
  · rw [if_pos hs, if_pos hs]
  · rw [if_neg hs, if_neg hs, applyRules_nil]

/-- A file that no entry names stays as it is. -/
theorem file?_after_of_not_same (h : ∀ e ∈ entries, ¬Path.Same e.1 path) :
    (m.after entries).file? path = m.file? path := by
  rw [after, file?_revise]
  cases hf : m.file? path with
  | none => rfl
  | some f =>
    have hpath : Path.components path = Path.components f.path := m.keyed _ (Dict.mem_of_find? hf)
    have hrules : rulesAt entries f.path = [] :=
      rulesAt_eq_nil fun e he hs => h e he (hs.trans hpath.symm)
    rw [Option.map_some, hrules, applyRules_nil]

/-- The path of an entry denotes a file. -/
def Holds (m : Memory) (e : String × List Rule) : Prop :=
  (m.file? e.1).isSome

instance (m : Memory) (e : String × List Rule) : Decidable (m.Holds e) :=
  inferInstanceAs (Decidable ((m.file? e.1).isSome = true))

/-- No file comes or goes. -/
theorem holds_after : (m.after entries).Holds e ↔ m.Holds e := by
  rw [Holds, Holds, after, file?_revise, Option.isSome_map]

end Memory

open Memory (missing refused)

variable {m : Memory} {path : String} {rules : List Rule} {e : String × List Rule}
  {entries pre post : List (String × List Rule)} {f : MemoryFile}

/-! ## One file -/

theorem substitute_of_missing (h : m.file? path = none) :
    substitute Memory.fileSystem path rules m =
      ((.error (.read path (missing path)), []), m) := by
  simp only [substitute, bind, StateT.bind, Memory.read_of_missing h]
  rfl

theorem substitute_of_readOnly (h : m.file? path = some f) (hreadOnly : m.readOnly = true) :
    substitute Memory.fileSystem path rules m =
      ((.error (.write path (refused path)), ruleEvents path rules f.content), m) := by
  simp only [substitute, bind, StateT.bind, Memory.read_of_file? h, Memory.stat_of_file? h,
    Memory.write_of_readOnly hreadOnly]
  rfl

/-- A file that is there is substituted, and nothing else changes. -/
theorem substitute_of_present (h : m.file? path = some f) (hwritable : m.readOnly = false) :
    substitute Memory.fileSystem path rules m =
      ((.ok (), ruleEvents path rules f.content ++ [.rewrote path f.mode]),
        m.after [(path, rules)]) := by
  simp only [substitute, bind, StateT.bind, Memory.read_of_file? h, Memory.stat_of_file? h,
    Memory.write_of_writable hwritable, Memory.insert_eq_after h]
  rfl

/-! ## Several files -/

theorem substituteAll_of_readOnly (hreadOnly : m.readOnly = true) :
    (substituteAll Memory.fileSystem entries m).2 = m ∧
      (substituteAll Memory.fileSystem entries m).1.1 =
        match entries with
        | [] => .ok ()
        | e :: _ =>
          if m.Holds e then .error (.write e.1 (refused e.1))
          else .error (.read e.1 (missing e.1)) := by
  cases entries with
  | nil => exact ⟨rfl, rfl⟩
  | cons e rest =>
    cases hf : m.file? e.1 with
    | none =>
      have hmissing : ¬m.Holds e := by simp [Memory.Holds, hf]
      simp only [substituteAll, bind, StateT.bind, substitute_of_missing hf, if_neg hmissing]
      exact ⟨rfl, rfl⟩
    | some f =>
      have hholds : m.Holds e := by simp [Memory.Holds, hf]
      simp only [substituteAll, bind, StateT.bind, substitute_of_readOnly hf hreadOnly,
        if_pos hholds]
      exact ⟨rfl, rfl⟩

/-- A run goes through the entries whose files are there. -/
theorem substituteAll_append (hwritable : m.readOnly = false) (h : ∀ e ∈ pre, m.Holds e)
    (post : List (String × List Rule)) :
    (substituteAll Memory.fileSystem (pre ++ post) m).2 =
        (substituteAll Memory.fileSystem post (m.after pre)).2 ∧
      (substituteAll Memory.fileSystem (pre ++ post) m).1.1 =
        (substituteAll Memory.fileSystem post (m.after pre)).1.1 := by
  induction pre generalizing m with
  | nil =>
    rw [List.nil_append, Memory.after_nil]
    exact ⟨rfl, rfl⟩
  | cons e pre ih =>
    obtain ⟨f, hf⟩ := Option.isSome_iff_exists.1 (h e List.mem_cons_self)
    have hpre : ∀ e' ∈ pre, (m.after [e]).Holds e' := fun e' he' =>
      Memory.holds_after.2 (h e' (List.mem_cons_of_mem e he'))
    have hrest := ih (m := m.after [e]) hwritable hpre
    rw [Memory.after_cons] at hrest
    simp only [List.cons_append, substituteAll, bind, StateT.bind,
      substitute_of_present hf hwritable]
    exact hrest

theorem substituteAll_of_missing (h : m.file? e.1 = none) (post : List (String × List Rule)) :
    (substituteAll Memory.fileSystem (e :: post) m).2 = m ∧
      (substituteAll Memory.fileSystem (e :: post) m).1.1 =
        .error (.read e.1 (missing e.1)) := by
  simp only [substituteAll, bind, StateT.bind, substitute_of_missing h]
  exact ⟨rfl, rfl⟩

/-- **What a run makes of files in memory**, whatever the table and the files are. The entries are
gone through in the order of the bytes of their paths, up to the first one whose path denotes no
file; where writing is refused, the first entry fails and nothing changes. -/
theorem replaceImages_memory (t : Table) (m : Memory) :
    let run := replaceImages Memory.fileSystem t m
    (t.entries.Pairwise fun a b => Utf8.ofString a.1 < Utf8.ofString b.1) ∧
      (m.readOnly = false →
        (∀ pre e post, t.entries = pre ++ e :: post → (∀ e' ∈ pre, m.Holds e') → ¬m.Holds e →
          run.1.1 = .error (.read e.1 (missing e.1)) ∧ run.2 = m.after pre) ∧
        ((∀ e ∈ t.entries, m.Holds e) → run.1.1 = .ok () ∧ run.2 = m.after t.entries)) ∧
      (m.readOnly = true →
        run.2 = m ∧
          run.1.1 =
            match t.entries with
            | [] => .ok ()
            | e :: _ =>
              if m.Holds e then .error (.write e.1 (refused e.1))
              else .error (.read e.1 (missing e.1))) ∧
      ∀ entries, (m.after entries).paths = m.paths ∧
        (∀ path, (m.after entries).file? path =
          (m.file? path).map fun f =>
            { f with content := applyRules (rulesAt entries f.path) f.content }) ∧
        ∀ path, (∀ e ∈ entries, ¬Path.Same e.1 path) →
          (m.after entries).file? path = m.file? path := by
  intro run
  refine ⟨t.ordered.imp Utf8.ofString_lt, fun hwritable => ⟨?_, ?_⟩, fun hreadOnly =>
    substituteAll_of_readOnly hreadOnly, fun entries => ⟨Memory.paths_revise _ _, fun path =>
    Memory.file?_revise _ _ path, fun path => Memory.file?_after_of_not_same⟩⟩
  · intro pre e post hentries hpre he
    have hmissing : (m.after pre).file? e.1 = none := by
      rw [← Option.not_isSome_iff_eq_none]
      exact fun hs => he (Memory.holds_after.1 hs)
    obtain ⟨hstate, hresult⟩ := substituteAll_append hwritable hpre (e :: post)
    obtain ⟨hstate', hresult'⟩ := substituteAll_of_missing hmissing post
    rw [← hentries] at hstate hresult
    exact ⟨hresult.trans hresult', hstate.trans hstate'⟩
  · intro hall
    obtain ⟨hstate, hresult⟩ := substituteAll_append hwritable hall []
    rw [List.append_nil] at hstate hresult
    exact ⟨hresult, hstate⟩

/-- Two spellings in a table may denote one file, which is then rewritten for each of them, before
the run fails at a file that is missing. -/
theorem replaceImages_memory_spellings :
    let rules := [(⟨"x", .octet (.single 0x78), "xy"⟩ : Rule)]
    let t := ((Table.empty.insert "c" rules).insert "a/b" rules).insert "a//b" rules
    let m := Memory.insert {} "./a" [] 0o600 |>.insert "a/b/" (Utf8.ofString "x") 0o644
    let run := replaceImages Memory.fileSystem t m
    run.1.1 = .error (.read "c" (missing "c")) ∧
      run.2.files = [([.here, .name "a"], ⟨"./a", [], 0o600⟩),
        ([.name "a", .name "b"], ⟨"a/b/", Utf8.ofString "xyy", 0o644⟩)] := by
  intro rules t m run
  have hpre : ∀ e ∈ [("a//b", rules), ("a/b", rules)], m.Holds e := by decide
  have hmissing : ¬m.Holds ("c", rules) := by decide
  obtain ⟨hresult, hstate⟩ := ((replaceImages_memory t m).2.1 rfl).1 _ _ [] rfl hpre hmissing
  refine ⟨hresult, ?_⟩
  rw [hstate]
  decide +kernel

end Downstream
