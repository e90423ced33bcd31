import Downstream.Proofs.Text.Order
import Downstream.Substitution.Table
import Mathlib.Data.List.Induction

/-!
# Tables after any insertions

Rules are listed in a table in one way: their patterns are compiled, and if all of them are patterns
the rules are listed, in place of former ones under the same path (`Table.Insertion`). What a table
lists after some insertions are, for each path as it is written, the rules of the last insertion
that did not fail (`Table.Insertion.find?_runAll`), so all that can be asked of it is known
(`Table.Insertion.entries_runAll`).
-/

namespace Downstream

/-! ## Rules in order -/

/-- A text that is a pattern. -/
def IsPattern (text : String) : Prop :=
  (Pattern.read? text).isSome = true

instance (text : String) : Decidable (IsPattern text) :=
  inferInstanceAs (Decidable (_ = true))

/-- The rules of patterns and their replacements, in the same order. -/
structure Compiled (pairs : List (String × String)) (rules : List Rule) : Prop where
  texts : rules.map (fun r => (r.pattern, r.replacement)) = pairs
  meant : ∀ r ∈ rules, Pattern.read? r.pattern = some r.expr

variable {pairs : List (String × String)} {rules rules' : List Rule}

/-- The rules are determined by their texts. -/
theorem Compiled.unique (h : Compiled pairs rules) (h' : Compiled pairs rules') :
    rules = rules' := by
  obtain ⟨rfl, hmeant⟩ := h
  obtain ⟨htexts, hmeant'⟩ := h'
  induction rules generalizing rules' with
  | nil => exact (List.map_eq_nil_iff.1 htexts).symm
  | cons r rules ih =>
    obtain ⟨r', rest, rfl, hr, hrest⟩ := List.map_eq_cons_iff.1 htexts
    obtain ⟨hexpr, htail⟩ := List.forall_mem_cons.1 hmeant
    obtain ⟨hexpr', htail'⟩ := List.forall_mem_cons.1 hmeant'
    obtain ⟨pattern, expr, replacement⟩ := r
    obtain ⟨pattern', expr', replacement'⟩ := r'
    obtain ⟨rfl, rfl⟩ := Prod.mk.inj hr
    obtain rfl : expr = expr' := Option.some.inj (hexpr.symm.trans hexpr')
    rw [ih htail hrest htail']

theorem compileAll_cons (pattern replacement : String) (pairs : List (String × String)) :
    Rule.compileAll ((pattern, replacement) :: pairs) =
      match Pattern.read? pattern with
      | none => .error (.badPattern pattern)
      | some expr => (Rule.compileAll pairs).map (⟨pattern, expr, replacement⟩ :: ·) := by
  rw [Rule.compileAll, List.mapM_cons, ← Rule.compileAll]
  simp only [Rule.compile]
  cases Pattern.read? pattern with
  | none => rfl
  | some expr => cases Rule.compileAll pairs <;> rfl

/-- If all texts are patterns, there are rules of them. -/
theorem exists_compileAll_eq_ok (h : ∀ p ∈ pairs, IsPattern p.1) :
    ∃ rules, Rule.compileAll pairs = .ok rules ∧ Compiled pairs rules := by
  induction pairs with
  | nil => exact ⟨[], rfl, rfl, List.forall_mem_nil _⟩
  | cons p pairs ih =>
    obtain ⟨pattern, replacement⟩ := p
    obtain ⟨hp, hpairs⟩ := List.forall_mem_cons.1 h
    obtain ⟨expr, hexpr⟩ := Option.isSome_iff_exists.1 hp
    obtain ⟨rules, hrules, htexts, hmeant⟩ := ih hpairs
    refine ⟨⟨pattern, expr, replacement⟩ :: rules, ?_, ?_, List.forall_mem_cons.2 ⟨hexpr, hmeant⟩⟩
    · rw [compileAll_cons, hexpr, hrules]
      rfl
    · rw [List.map_cons, htexts]

/-- The first text that is no pattern is named. -/
theorem compileAll_append_of_not_isPattern {pre : List (String × String)} {pattern : String}
    (hpre : ∀ p ∈ pre, IsPattern p.1) (h : ¬IsPattern pattern) (replacement : String)
    (post : List (String × String)) :
    Rule.compileAll (pre ++ (pattern, replacement) :: post) = .error (.badPattern pattern) := by
  induction pre with
  | nil =>
    have hnone : Pattern.read? pattern = none := Option.not_isSome_iff_eq_none.1 h
    rw [List.nil_append, compileAll_cons, hnone]
  | cons p pre ih =>
    obtain ⟨hp, hpre⟩ := List.forall_mem_cons.1 hpre
    obtain ⟨expr, hexpr⟩ := Option.isSome_iff_exists.1 hp
    rw [List.cons_append, compileAll_cons, hexpr, ih hpre]
    rfl

/-- Of texts that are not all patterns, one is the first that is none. -/
theorem exists_first_not_isPattern (h : ¬∀ p ∈ pairs, IsPattern p.1) :
    ∃ pre pattern replacement post, pairs = pre ++ (pattern, replacement) :: post ∧
      (∀ p ∈ pre, IsPattern p.1) ∧ ¬IsPattern pattern := by
  induction pairs with
  | nil => exact absurd (fun _ hp => nomatch hp) h
  | cons p pairs ih =>
    by_cases hp : IsPattern p.1
    · obtain ⟨pre, pattern, replacement, post, rfl, hpre, hbad⟩ :=
        ih fun hpairs => h (List.forall_mem_cons.2 ⟨hp, hpairs⟩)
      exact ⟨p :: pre, pattern, replacement, post, rfl, List.forall_mem_cons.2 ⟨hp, hpre⟩, hbad⟩
    · exact ⟨[], p.1, p.2, pairs, rfl, List.forall_mem_nil _, hp⟩

namespace Table

variable {t : Table} {path : String}

/-! ## Asking a table -/

theorem mem_entries_iff : (path, rules) ∈ t.entries ↔ Dict.find? path t.entries = some rules :=
  ⟨fun h => Dict.find?_of_mem (fun _ _ => String.lt_asymm) t.ordered h, Dict.mem_of_find?⟩

theorem mem_paths_iff : path ∈ t.paths ↔ ∃ rules, Dict.find? path t.entries = some rules := by
  rw [paths, Dict.keys, List.mem_map]
  constructor
  · rintro ⟨⟨_, rules⟩, he, rfl⟩
    exact ⟨rules, mem_entries_iff.1 he⟩
  · rintro ⟨rules, h⟩
    exact ⟨_, mem_entries_iff.2 h, rfl⟩

/-! ## Insertions -/

/-- Rules that are to be listed under a path, once their patterns are compiled. -/
structure Insertion where
  path : String
  pairs : List (String × String)
  deriving Repr, DecidableEq

namespace Insertion

variable {i : Insertion} {insertions : List Insertion}

/-- All texts of patterns are patterns. -/
def Sound (i : Insertion) : Prop :=
  ∀ p ∈ i.pairs, IsPattern p.1

instance (i : Insertion) : Decidable i.Sound :=
  inferInstanceAs (Decidable (∀ p ∈ i.pairs, IsPattern p.1))

/-- Inserts into a table: how it ends, and the table after it, which is the same if it failed. -/
def run (i : Insertion) (t : Table) : Except SubstitutionError Unit × Table :=
  match t.insertCompiled i.path i.pairs with
  | .ok t => (.ok (), t)
  | .error e => (.error e, t)

/-- The table after insertions, one after the other. -/
def runAll (insertions : List Insertion) (t : Table) : Table :=
  insertions.foldl (fun t i => (i.run t).2) t

theorem runAll_append (insertions : List Insertion) (i : Insertion) (t : Table) :
    runAll (insertions ++ [i]) t = (i.run (runAll insertions t)).2 := by
  rw [runAll, List.foldl_append]
  rfl

/-- **An insertion of patterns lists their rules.** -/
theorem Sound.run (h : i.Sound) (t : Table) :
    ∃ rules, Compiled i.pairs rules ∧ i.run t = (.ok (), t.insert i.path rules) := by
  obtain ⟨rules, hrules, hcompiled⟩ := exists_compileAll_eq_ok h
  refine ⟨rules, hcompiled, ?_⟩
  rw [Insertion.run, insertCompiled, hrules]
  rfl

/-- **An insertion of a text that is no pattern changes nothing**, and names the first one. -/
theorem run_of_not_isPattern {pre post : List (String × String)} {pattern replacement : String}
    (hpairs : i.pairs = pre ++ (pattern, replacement) :: post) (hpre : ∀ p ∈ pre, IsPattern p.1)
    (h : ¬IsPattern pattern) (t : Table) : i.run t = (.error (.badPattern pattern), t) := by
  rw [run, insertCompiled, hpairs, compileAll_append_of_not_isPattern hpre h]
  rfl

theorem run_of_not_sound (h : ¬i.Sound) (t : Table) : (i.run t).2 = t := by
  obtain ⟨pre, pattern, replacement, post, hpairs, hpre, hbad⟩ := exists_first_not_isPattern h
  rw [run_of_not_isPattern hpairs hpre hbad]

/-- The last insertion for a path that does not fail. -/
def latest? (insertions : List Insertion) (path : String) : Option Insertion :=
  insertions.reverse.find? fun i => i.path = path ∧ i.Sound

theorem latest?_append (insertions : List Insertion) (i : Insertion) (path : String) :
    latest? (insertions ++ [i]) path =
      if i.path = path ∧ i.Sound then some i else latest? insertions path := by
  rw [latest?, List.reverse_append, List.reverse_singleton, List.singleton_append, List.find?_cons]
  by_cases h : i.path = path ∧ i.Sound <;> simp [h, latest?]

theorem isSome_latest?_iff :
    (latest? insertions path).isSome ↔ ∃ i ∈ insertions, i.Sound ∧ i.path = path := by
  rw [latest?, List.find?_isSome]
  simp [and_comm]

/-- **The last insertion counts**, for each path as it is written. -/
theorem find?_runAll (insertions : List Insertion) (path : String) :
    Dict.find? path (runAll insertions empty).entries = some rules ↔
      ∃ i, latest? insertions path = some i ∧ Compiled i.pairs rules := by
  induction insertions using List.reverseRecOn with
  | nil => exact ⟨nofun, nofun⟩
  | append_singleton insertions i ih =>
    rw [runAll_append, latest?_append]
    by_cases hsound : i.Sound
    · obtain ⟨rules', hcompiled, hrun⟩ := hsound.run (runAll insertions empty)
      rw [hrun, insert]
      by_cases hpath : i.path = path
      · rw [if_pos ⟨hpath, hsound⟩, ← hpath, Dict.find?_insert_self]
        constructor
        · rintro ⟨⟩
          exact ⟨i, rfl, hcompiled⟩
        · rintro ⟨_, ⟨⟩, hcompiled'⟩
          rw [hcompiled.unique hcompiled']
      · rw [if_neg fun h => hpath h.1, Dict.find?_insert_of_ne (Ne.symm hpath), ih]
    · rw [run_of_not_sound hsound, if_neg fun h => hsound h.2, ih]

/-- **Tables after any insertions.** An insertion fails if a text is no pattern, it names the first
one, and the table is as it was. The paths of the other insertions are listed, once each and in
strictly ascending order of their bytes, with the rules of the last one for exactly this spelling,
in their order. All that can be asked of a table agrees with this list. -/
theorem entries_runAll (insertions : List Insertion) :
    let t := runAll insertions empty
    (∀ (i : Insertion) (t₀ : Table),
      (i.Sound → ∃ rules, Compiled i.pairs rules ∧ i.run t₀ = (.ok (), t₀.insert i.path rules)) ∧
      (∀ pre pattern replacement post, i.pairs = pre ++ (pattern, replacement) :: post →
        (∀ p ∈ pre, IsPattern p.1) → ¬IsPattern pattern →
          i.run t₀ = (.error (.badPattern pattern), t₀))) ∧
    (t.entries.Pairwise fun a b => Utf8.ofString a.1 < Utf8.ofString b.1) ∧
    (∀ path rules, (path, rules) ∈ t.entries ↔
      ∃ i, latest? insertions path = some i ∧ Compiled i.pairs rules) ∧
    (∀ path, path ∈ t.paths ↔ ∃ i ∈ insertions, i.Sound ∧ i.path = path) ∧
    (∀ path, (∀ rules, (path, rules) ∈ t.entries → t.rulesFor path = rules) ∧
      (path ∉ t.paths → t.rulesFor path = [])) ∧
    t.paths = t.entries.map Prod.fst ∧ t.size = t.entries.length ∧
      (t.isEmpty = true ↔ t.entries = []) := by
  intro t
  have hfind : ∀ path rules, Dict.find? path t.entries = some rules ↔
      ∃ i, latest? insertions path = some i ∧ Compiled i.pairs rules :=
    fun path _ => find?_runAll insertions path
  refine ⟨fun i t₀ => ⟨fun h => h.run t₀, fun _ _ _ _ hpairs hpre h => ?_⟩,
    t.ordered.imp Utf8.ofString_lt, fun path rules => mem_entries_iff.trans (hfind path rules),
    fun path => ?_, fun path => ⟨fun rules h => ?_, fun h => ?_⟩, rfl, rfl, List.isEmpty_iff⟩
  · exact run_of_not_isPattern hpairs hpre h t₀
  · rw [mem_paths_iff, ← isSome_latest?_iff, Option.isSome_iff_exists]
    simp only [hfind]
    constructor
    · rintro ⟨rules, i, hi, -⟩
      exact ⟨i, hi⟩
    · rintro ⟨i, hi⟩
      have hsound : i.path = path ∧ i.Sound := by simpa using List.find?_some hi
      obtain ⟨rules, hcompiled, -⟩ := hsound.2.run t
      exact ⟨rules, i, hi, hcompiled⟩
  · rw [rulesFor, mem_entries_iff.1 h, Option.getD_some]
  · have hnone : Dict.find? path t.entries = none :=
      Option.eq_none_iff_forall_ne_some.2 fun rules hrules => h (mem_paths_iff.2 ⟨rules, hrules⟩)
    rw [rulesFor, hnone, Option.getD_none]

end Insertion

end Table

end Downstream
