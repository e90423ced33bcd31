import Downstream.Proofs.Files.Disk
import Downstream.Proofs.Substitution.Rule
import Downstream.Substitution.Apply

/-!
# Substituting in files on a disk

What substitutions make of the files on a disk, where every call may also fail. A file system serves
the files of a disk (`FileSystem.Serves`) if it either fails or answers as the disk has it; a write
that fails may leave anything in the file it was for. The state after some entries is described
place by place (`Disk.after`): the content of a file goes through the rules of all entries whose
path leads there.

* One file is substituted, or something failed (`substitute_serves`).
* A run goes through all entries (`Disk.Done`), or up to one that failed (`Disk.Stopped`), by
  induction over the entries (`substituteAll_serves`).
-/

namespace Downstream

/-! ## Calls that may fail -/

/-- The disk as it is after writing a file failed: something may have become of the file. -/
def Disk.Spoiled (d : Disk) (path : String) (d' : Disk) : Prop :=
  d' = d ∨ ∃ names f, d.target path = .ok names ∧ d' = d.put (Disk.place names) f

/-- The file system fails, or answers from the files of a disk below a directory. -/
structure FileSystem.Serves (fs : FileSystem (StateM Disk)) (root : String) : Prop where
  read : ∀ path d, (∃ e, fs.read path d = (.error e, d)) ∨
    ∃ content, d.read (Path.join root path) = .ok content ∧ fs.read path d = (.ok content, d)
  stat : ∀ path d, (∃ e, fs.stat path d = (.error e, d)) ∨
    ∃ mode, d.stat (Path.join root path) = .ok mode ∧ fs.stat path d = (.ok mode, d)
  write : ∀ path content mode d,
    (∃ e d', d.Spoiled (Path.join root path) d' ∧ fs.write path content mode d = (.error e, d')) ∨
    ∃ d', d.write (Path.join root path) content (some mode) = .ok d' ∧
      fs.write path content mode d = (.ok (), d')

theorem Disk.serves_fileSystem (root : String) : (Disk.fileSystem root).Serves root where
  read path d := by
    simp only [fileSystem]
    cases d.read (Path.join root path) with
    | error k => exact .inl ⟨.system k, rfl⟩
    | ok content => exact .inr ⟨content, rfl, rfl⟩
  stat path d := by
    simp only [fileSystem]
    cases d.stat (Path.join root path) with
    | error k => exact .inl ⟨.system k, rfl⟩
    | ok mode => exact .inr ⟨mode, rfl, rfl⟩
  write path content mode d := by
    simp only [fileSystem]
    cases d.write (Path.join root path) content (some mode) with
    | error k => exact .inl ⟨.system k, d, .inl rfl, rfl⟩
    | ok d' => exact .inr ⟨d', rfl, rfl⟩

namespace Disk

variable {d d' d'' : Disk} {root path at_ : String} {names : List String} {f : DiskFile}
  {rules : List Rule} {entries pre post : List (String × List Rule)} {e : String × List Rule}

/-- Failing to write a file that is there spoils that file at most. -/
theorem Leads.spoiled (h : d.Leads path names f) (hfile : NamesFile path) (hd : d.Spoiled path d') :
    d' = d ∨ ∃ f', d' = d.put (place names) f' := by
  rcases hd with rfl | ⟨names', f', htarget, rfl⟩
  · exact .inl rfl
  · rw [target_of_leads h hfile] at htarget
    cases htarget
    exact .inr ⟨f', rfl⟩

/-- The modes of all files are permission bits. -/
def KeepsPermissions (d : Disk) : Prop :=
  ∀ e ∈ d.files, permissions e.2.mode = e.2.mode

instance (d : Disk) : Decidable d.KeepsPermissions :=
  inferInstanceAs (Decidable (∀ e ∈ d.files, permissions e.2.mode = e.2.mode))

theorem KeepsPermissions.of_file? (h : d.KeepsPermissions) (hf : d.file? at_ = some f) :
    permissions f.mode = f.mode :=
  h _ (Dict.mem_of_find? hf)

theorem KeepsPermissions.put (h : d.KeepsPermissions) (hf : permissions f.mode = f.mode) :
    (d.put at_ f).KeepsPermissions := by
  intro e he
  rcases Dict.mem_insert he with rfl | he
  · exact hf
  · exact h e he

/-! ## After some entries -/

/-- The rules of those entries whose path below `root` leads to a place, in order. -/
def rulesAt (d : Disk) (root : String) (entries : List (String × List Rule)) (at_ : String) :
    List Rule :=
  entries.flatMap fun e => if d.place? (Path.join root e.1) = some at_ then e.2 else []

/-- The file at a place after the rules of some entries were applied. -/
def after (d : Disk) (root : String) (entries : List (String × List Rule)) (at_ : String) :
    Option DiskFile :=
  (d.file? at_).map fun f => ⟨applyRules (d.rulesAt root entries at_) f.content, f.mode⟩

/-- All entries were gone through. -/
structure Done (d : Disk) (root : String) (entries : List (String × List Rule)) (d' : Disk) :
    Prop where
  tree : SameTree d d'
  placed : ∀ e ∈ entries, (d.place? (Path.join root e.1)).isSome
  files : ∀ at_, d'.file? at_ = d.after root entries at_

/-- The entries of `pre` were gone through, and then `cause` stopped the one of `path`. Only if
writing failed, it is not known what is in its file. -/
structure Stopped (d : Disk) (root : String) (pre : List (String × List Rule)) (path : String)
    (cause : SubstitutionError) (d' : Disk) : Prop where
  tree : SameTree d d'
  placed : ∀ e ∈ pre, (d.place? (Path.join root e.1)).isSome
  about : cause.path? = some path
  files : ∀ at_, d'.file? at_ = d.after root pre at_ ∨
    (∃ e, cause = .write path e) ∧ d.place? (Path.join root path) = some at_

theorem after_nil (d : Disk) (root at_ : String) : d.after root [] at_ = d.file? at_ := by
  simp [after, rulesAt]

theorem Done.nil (d : Disk) (root : String) : d.Done root [] d :=
  ⟨.refl d, (fun _ h => nomatch h), fun at_ => (after_nil d root at_).symm⟩

theorem Done.after (h : d.Done root pre d') (post : List (String × List Rule)) (at_ : String) :
    d'.after root post at_ = d.after root (pre ++ post) at_ := by
  have hrules : d'.rulesAt root post at_ = d.rulesAt root post at_ := by
    simp only [rulesAt, h.tree.place?]
  have happend : d.rulesAt root (pre ++ post) at_ =
      d.rulesAt root pre at_ ++ d.rulesAt root post at_ := List.flatMap_append
  rw [Disk.after, Disk.after, h.files, hrules, happend, Disk.after, Option.map_map]
  congr 1
  funext f
  simp only [Function.comp_apply, applyRules_append]

theorem Done.append (h : d.Done root pre d') (h' : d'.Done root post d'') :
    d.Done root (pre ++ post) d'' where
  tree := h.tree.trans h'.tree
  placed e he := by
    rcases List.mem_append.1 he with he | he
    · exact h.placed e he
    · rw [← h.tree.place?]
      exact h'.placed e he
  files at_ := by rw [h'.files, h.after]

theorem Done.stopped (h : d.Done root pre d') {cause : SubstitutionError}
    (h' : d'.Stopped root post path cause d'') : d.Stopped root (pre ++ post) path cause d'' where
  tree := h.tree.trans h'.tree
  placed e he := by
    rcases List.mem_append.1 he with he | he
    · exact h.placed e he
    · rw [← h.tree.place?]
      exact h'.placed e he
  about := h'.about
  files at_ := by
    rw [← h.after, ← h.tree.place?]
    exact h'.files at_

/-- A file was replaced by what the rules make of it. -/
theorem Leads.done (h : d.Leads (Path.join root path) names f) (rules : List Rule) :
    d.Done root [(path, rules)] (d.put (place names) ⟨applyRules rules f.content, f.mode⟩) where
  tree := sameTree_put (by simp [h.file?]) _
  placed e he := by
    rw [List.mem_singleton.1 he, h.place?]
    rfl
  files at_ := by
    by_cases hne : at_ = place names
    · subst hne
      simp [Disk.after, rulesAt, h.file?, h.place?]
    · rw [file?_put_of_ne hne]
      simp [Disk.after, rulesAt, h.place?, Ne.symm hne]

/-- Something failed, and the disk is as it was. -/
theorem Stopped.unchanged {cause : SubstitutionError} (d : Disk) (root : String)
    (h : cause.path? = some path) : d.Stopped root [] path cause d :=
  ⟨.refl d, (fun _ h => nomatch h), h, fun at_ => .inl (after_nil d root at_).symm⟩

/-- Writing failed. -/
theorem Leads.stopped (h : d.Leads (Path.join root path) names f) (e : FileError) (f' : DiskFile) :
    d.Stopped root [] path (.write path e) (d.put (place names) f') where
  tree := sameTree_put (by simp [h.file?]) _
  placed _ h := nomatch h
  about := rfl
  files at_ := by
    by_cases hne : at_ = place names
    · exact .inr ⟨⟨e, rfl⟩, hne ▸ h.place?⟩
    · exact .inl (by rw [file?_put_of_ne hne, after_nil])

/-! ## Entries for different files -/

/-- The files of some entries went through their rules, each through those of one entry, and kept
their modes. All other files are as they were, but for those at places that are left open. -/
structure Rewrote (d : Disk) (root : String) (entries : List (String × List Rule))
    (leftOpen : String → Prop) (d' : Disk) : Prop where
  tree : SameTree d d'
  rewritten : ∀ e ∈ entries, ∃ at_ f, d.place? (Path.join root e.1) = some at_ ∧
    d.file? at_ = some f ∧ d'.file? at_ = some ⟨applyRules e.2 f.content, f.mode⟩
  kept : ∀ at_, ¬leftOpen at_ → (∀ e ∈ entries, d.place? (Path.join root e.1) ≠ some at_) →
    d'.file? at_ = d.file? at_

theorem rulesAt_eq_nil (h : ∀ e ∈ entries, d.place? (Path.join root e.1) ≠ some at_) :
    d.rulesAt root entries at_ = [] :=
  List.flatMap_eq_nil_iff.2 fun e he => if_neg (h e he)

theorem after_of_forall_ne (h : ∀ e ∈ entries, d.place? (Path.join root e.1) ≠ some at_) :
    d.after root entries at_ = d.file? at_ := by
  simp [after, rulesAt_eq_nil h]

/-- A file whose entry is the only one for it went through the rules of this entry. -/
theorem rulesAt_of_mem (hplain : ∀ e ∈ entries, Plain e.1)
    (hdistinct : (entries.map Prod.fst).Nodup) (he : e ∈ entries)
    (hplace : d.place? (Path.join root e.1) = some at_) : d.rulesAt root entries at_ = e.2 := by
  obtain ⟨pre, post, rfl⟩ := List.append_of_mem he
  have hother : ∀ x ∈ pre ++ e :: post, x.1 ≠ e.1 → d.place? (Path.join root x.1) ≠ some at_ :=
    fun x hx hne hplace' => hne (place?_join_inj (hplain x hx) (hplain e he) hplace' hplace)
  rw [List.map_append, List.map_cons, List.nodup_append, List.nodup_cons] at hdistinct
  obtain ⟨-, ⟨hpost, -⟩, hpre⟩ := hdistinct
  have hpre : d.rulesAt root pre at_ = [] := rulesAt_eq_nil fun x hx =>
    hother x (List.mem_append_left _ hx)
      (hpre x.1 (List.mem_map_of_mem hx) e.1 List.mem_cons_self)
  have hpost : d.rulesAt root post at_ = [] := rulesAt_eq_nil fun x hx =>
    hother x (List.mem_append_right _ (List.mem_cons_of_mem _ hx))
      fun heq => hpost (heq ▸ List.mem_map_of_mem hx)
  have hsplit : d.rulesAt root (pre ++ e :: post) at_ =
      d.rulesAt root pre at_ ++ (e.2 ++ d.rulesAt root post at_) := by
    simp [rulesAt, List.flatMap_append, List.flatMap_cons, hplace]
  rw [hsplit, hpre, hpost, List.nil_append, List.append_nil]

/-- The state place by place, if every file has one entry. -/
theorem rewrote_of_after {leftOpen : String → Prop} (htree : SameTree d d')
    (hplain : ∀ e ∈ entries, Plain e.1) (hdistinct : (entries.map Prod.fst).Nodup)
    (hplaced : ∀ e ∈ entries, ∃ at_, d.place? (Path.join root e.1) = some at_ ∧ ¬leftOpen at_)
    (hfiles : ∀ at_, ¬leftOpen at_ → d'.file? at_ = d.after root entries at_) :
    d.Rewrote root entries leftOpen d' where
  tree := htree
  rewritten e he := by
    obtain ⟨at_, hplace, hclosed⟩ := hplaced e he
    obtain ⟨names, f, hleads, rfl⟩ := place?_eq_some_iff.1 hplace
    refine ⟨place names, f, hplace, hleads.file?, ?_⟩
    rw [hfiles _ hclosed, after, rulesAt_of_mem hplain hdistinct he hplace, hleads.file?,
      Option.map_some]
  kept at_ hclosed hne := by rw [hfiles at_ hclosed, after_of_forall_ne hne]

theorem Rewrote.mono {leftOpen leftOpen' : String → Prop} (h : d.Rewrote root entries leftOpen d')
    (himp : ∀ at_, leftOpen at_ → leftOpen' at_) : d.Rewrote root entries leftOpen' d' where
  tree := h.tree
  rewritten := h.rewritten
  kept at_ hclosed hne := h.kept at_ (fun hopen => hclosed (himp at_ hopen)) hne

/-- After that a file was written that no entry is about. -/
theorem Rewrote.put (h : d.Rewrote root entries (fun _ => False) d') (hat : (d.file? at_).isSome)
    (hne : ∀ e ∈ entries, d.place? (Path.join root e.1) ≠ some at_) (f : DiskFile) :
    d.Rewrote root entries (· = at_) (d'.put at_ f) where
  tree := h.tree.trans (sameTree_put (by rwa [h.tree.isSome_file?]) f)
  rewritten e he := by
    obtain ⟨other, f', hplace, hf', hafter⟩ := h.rewritten e he
    have hother : other ≠ at_ := fun heq => hne e he (heq ▸ hplace)
    exact ⟨other, f', hplace, hf', by rw [file?_put_of_ne hother, hafter]⟩
  kept other hother hnone := by
    rw [file?_put_of_ne hother]
    exact h.kept other id hnone

/-! ## A run -/

variable {fs : FileSystem (StateM Disk)}

/-- One file is substituted, or a call failed. -/
theorem substitute_serves (h : fs.Serves root) (hfile : NamesFile (Path.join root path))
    (hmodes : d.KeepsPermissions) (rules : List Rule) :
    let run := substitute fs path rules d
    (run.1.1 = .ok () ∧ d.Done root [(path, rules)] run.2 ∧ run.2.KeepsPermissions) ∨
      ∃ cause, run.1.1 = .error cause ∧ d.Stopped root [] path cause run.2 := by
  rcases h.read path d with ⟨e, hread⟩ | ⟨content, hcontent, hread⟩
  · simp only [substitute, bind, StateT.bind, hread]
    exact .inr ⟨_, rfl, .unchanged d root rfl⟩
  rcases h.stat path d with ⟨e, hstat⟩ | ⟨mode, hmode, hstat⟩
  · simp only [substitute, bind, StateT.bind, hread, hstat]
    exact .inr ⟨_, rfl, .unchanged d root rfl⟩
  obtain ⟨names, f, hleads, rfl⟩ := read_eq_ok_iff.1 hcontent
  obtain rfl : f.mode = mode := Except.ok.inj ((stat_of_leads hleads).symm.trans hmode)
  rcases h.write path (applyRules rules f.content) f.mode d with
    ⟨e, d', hspoiled, hwrite⟩ | ⟨d', hd', hwrite⟩ <;>
    simp only [substitute, bind, StateT.bind, hread, hstat, hwrite]
  · refine .inr ⟨_, rfl, ?_⟩
    rcases hleads.spoiled hfile hspoiled with rfl | ⟨f', rfl⟩
    · exact .unchanged d' root rfl
    · exact hleads.stopped e f'
  · have hkept : permissions f.mode = f.mode := hmodes.of_file? hleads.file?
    rw [write_of_leads hleads hfile, Option.map_some, Option.getD_some, hkept] at hd'
    cases hd'
    exact .inl ⟨rfl, hleads.done rules, hmodes.put hkept⟩

/-- **A run over the files of a disk.** Either all entries are gone through, or the first entries up
to one for which a call failed. -/
theorem substituteAll_serves (h : fs.Serves root) {entries : List (String × List Rule)}
    (hfile : ∀ e ∈ entries, NamesFile (Path.join root e.1)) (hmodes : d.KeepsPermissions) :
    let run := substituteAll fs entries d
    (run.1.1 = .ok () ∧ d.Done root entries run.2) ∨
      ∃ pre path rules post cause, entries = pre ++ (path, rules) :: post ∧
        run.1.1 = .error cause ∧ d.Stopped root pre path cause run.2 := by
  induction entries generalizing d with
  | nil => exact .inl ⟨rfl, .nil d root⟩
  | cons e rest ih =>
    obtain ⟨path, rules⟩ := e
    obtain ⟨hfirst, hrest⟩ := List.forall_mem_cons.1 hfile
    have hone := substitute_serves h hfirst hmodes rules
    rcases hrun : substitute fs path rules d with ⟨⟨result, events⟩, d'⟩
    rw [hrun] at hone
    obtain ⟨rfl, hdone, hmodes'⟩ | ⟨cause, rfl, hstopped⟩ := hone <;>
      simp only [substituteAll, bind, StateT.bind, hrun]
    · rcases ih hrest hmodes' with
        ⟨hok, hdone'⟩ | ⟨pre, path', rules', post, cause, rfl, herr, hstopped⟩
      · exact .inl ⟨hok, hdone.append hdone'⟩
      · exact .inr ⟨(path, rules) :: pre, path', rules', post, cause, rfl, herr,
          hdone.stopped hstopped⟩
    · exact .inr ⟨[], path, rules, rest, cause, rfl, rfl, hstopped⟩

/-- **A run over the files of a disk, every file with one entry.** -/
theorem substituteAll_rewrote (h : fs.Serves root) {entries : List (String × List Rule)}
    (hplain : ∀ e ∈ entries, Plain e.1) (hdistinct : (entries.map Prod.fst).Nodup)
    (hmodes : d.KeepsPermissions) :
    let run := substituteAll fs entries d
    (run.1.1 = .ok () ∧ d.Rewrote root entries (fun _ => False) run.2) ∨
      ∃ pre path rules post cause, entries = pre ++ (path, rules) :: post ∧
        run.1.1 = .error cause ∧ cause.path? = some path ∧
        d.Rewrote root pre (fun at_ => (∃ e, cause = .write path e) ∧
          d.place? (Path.join root path) = some at_) run.2 := by
  intro run
  rcases substituteAll_serves h (fun e he => (hplain e he).namesFile_join root) hmodes with
    ⟨hok, hdone⟩ | ⟨pre, path, rules, post, cause, rfl, herr, hstopped⟩
  · refine .inl ⟨hok, rewrote_of_after hdone.tree hplain hdistinct (fun e he => ?_)
      fun at_ _ => hdone.files at_⟩
    obtain ⟨at_, hplace⟩ := Option.isSome_iff_exists.1 (hdone.placed e he)
    exact ⟨at_, hplace, id⟩
  · rw [List.map_append, List.map_cons, List.nodup_append] at hdistinct
    obtain ⟨hpre, -, hnotin⟩ := hdistinct
    refine .inr ⟨pre, path, rules, post, cause, rfl, herr, hstopped.about,
      rewrote_of_after hstopped.tree (fun e he => hplain e (List.mem_append_left _ he)) hpre
        (fun e he => ?_) fun at_ hclosed => (hstopped.files at_).resolve_right hclosed⟩
    obtain ⟨at_, hplace⟩ := Option.isSome_iff_exists.1 (hstopped.placed e he)
    refine ⟨at_, hplace, fun ⟨_, hplace'⟩ => ?_⟩
    exact hnotin e.1 (List.mem_map_of_mem he) path List.mem_cons_self
      (place?_join_inj (hplain e (List.mem_append_left _ he))
        (hplain (path, rules) (List.mem_append_right _ List.mem_cons_self)) hplace hplace')

end Disk

end Downstream
