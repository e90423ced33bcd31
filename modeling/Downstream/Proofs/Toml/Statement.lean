import Downstream.Proofs.Toml.InOrder
import Mathlib.Logic.Relation

/-!
# One document in many spellings

The lines of a document come to statements: that there is a table, that an array of tables has one
more, that a key has a value (`Statement`). Each names all keys from the main table on, so a dotted
key says the same as the last part of it under a header. `Statement.run` goes through them without
asking how a table came to be, which decides only whether a document is refused.

`Rephrase` rewrites statements: those about different places change places, a table need not be
named where something in it is, and a table or an array of tables in braces and brackets may be said
line by line. No rewriting changes what the statements come to (`Statement.run_eq_of_eqvGen`).
-/

namespace Downstream

/-- Entries under different keys come in any order. -/
theorem Dict.insert_comm {α : Type} {k l : String} (hne : k ≠ l) (v w : α) (d : Dict String α) :
    insert k v (insert l w d) = insert l w (insert k v d) := by
  induction d with
  | nil =>
    rcases Std.lt_trichotomy k l with h | h | h
    · simp [insert, h, String.lt_asymm h, hne.symm]
    · exact absurd h hne
    · simp [insert, h, String.lt_asymm h, hne]
  | cons e d ih =>
    -- where the two keys stand relative to the first entry and to each other decides all
    obtain ⟨m, u⟩ := e
    have hkl := Std.lt_trichotomy k l
    have hkm := Std.lt_trichotomy k m
    have hlm := Std.lt_trichotomy l m
    have asymm : ∀ a b : String, a < b → ¬b < a := fun _ _ => String.lt_asymm
    have trans : ∀ a b c : String, a < b → b < c → a < c := fun _ _ _ => String.lt_trans
    grind [insert]

namespace Toml

namespace Item

variable {f g : List (String × Item) → List (String × Item)} {h h' : Option Item → Item}
  {o : Option Item} {p q : List String} {entries : List (String × Item)}

/-! ## Changes somewhere in an item -/

/-- The entries of the table that something stands for in a path: of an array its last table, and
no entries where there is no table. -/
def reached : Option Item → List (String × Item)
  | some (.table entries) => entries
  | some (.array items) =>
    match items.getLast? with
    | some (.table entries) => entries
    | _ => []
  | _ => []

/-- Changes the table that something stands for in a path. What is no table gives way to one. -/
def changeTable (f : List (String × Item) → List (String × Item)) : Option Item → Item
  | some (.array items) =>
    match items.getLast? with
    | some (.table entries) => .array (items.dropLast ++ [.table (f entries)])
    | _ => .table (f [])
  | o => .table (f (reached o))

/-- Changes what a path leads to. -/
def changeAt (h : Option Item → Item) : List String → Option Item → Item
  | [], o => h o
  | k :: path, o =>
    changeTable (fun entries => Dict.insert k (changeAt h path (Dict.find? k entries)) entries) o

theorem reached_array (items : List Item) (entries : List (String × Item)) :
    reached (some (.array (items ++ [.table entries]))) = entries := by
  simp [reached]

theorem changeTable_array (f : List (String × Item) → List (String × Item)) (items : List Item)
    (entries : List (String × Item)) :
    changeTable f (some (.array (items ++ [.table entries]))) =
      .array (items ++ [.table (f entries)]) := by
  simp [changeTable]

/-- Either the last table of an array changes, or there is one table afterwards. -/
theorem changeTable_cases (o : Option Item) :
    (∃ items entries, o = some (.array (items ++ [.table entries]))) ∨
      ∀ f, changeTable f o = .table (f (reached o)) := by
  match o with
  | some (.array items) =>
    cases hlast : items.getLast? with
    | none => exact .inr fun f => by simp [changeTable, reached, hlast]
    | some i =>
      cases i with
      | table entries =>
        obtain ⟨earlier, rfl⟩ := List.getLast?_eq_some_iff.1 hlast
        exact .inl ⟨earlier, entries, rfl⟩
      | _ => exact .inr fun f => by simp [changeTable, reached, hlast]
  | none => exact .inr fun _ => rfl
  | some (.table _) => exact .inr fun _ => rfl
  | some (.string _) => exact .inr fun _ => rfl
  | some (.integer _) => exact .inr fun _ => rfl
  | some .unreadable => exact .inr fun _ => rfl
  | some (.float _) => exact .inr fun _ => rfl
  | some (.boolean _) => exact .inr fun _ => rfl
  | some (.moment _) => exact .inr fun _ => rfl

/-- Two changes of a table are one. -/
theorem changeTable_changeTable (f g : List (String × Item) → List (String × Item))
    (o : Option Item) :
    changeTable g (some (changeTable f o)) = changeTable (fun entries => g (f entries)) o := by
  obtain ⟨items, entries, rfl⟩ | htable := changeTable_cases o
  · rw [changeTable_array, changeTable_array, changeTable_array]
  · rw [htable, htable]
    rfl

/-- Two changes at one place are one. -/
theorem changeAt_changeAt (h h' : Option Item → Item) (p : List String) (o : Option Item) :
    changeAt h' p (some (changeAt h p o)) = changeAt (fun o => h' (some (h o))) p o := by
  induction p generalizing o with
  | nil => rfl
  | cons k p ih =>
    rw [changeAt, changeAt, changeAt, changeTable_changeTable]
    congr 1
    funext entries
    rw [Dict.find?_insert_self, Dict.insert_insert String.lt_irrefl, ih]

theorem changeAt_append (h : Option Item → Item) (p q : List String) (o : Option Item) :
    changeAt h (p ++ q) o = changeAt (changeAt h q) p o := by
  induction p generalizing o with
  | nil => rfl
  | cons k p ih =>
    rw [List.cons_append, changeAt, changeAt]
    congr 1
    funext entries
    rw [ih]

/-- Neither of two paths leads through the end of the other. -/
def Apart (p q : List String) : Prop :=
  ¬p <+: q ∧ ¬q <+: p

instance (p q : List String) : Decidable (Apart p q) :=
  inferInstanceAs (Decidable (_ ∧ _))

/-- **Changes at different places come in any order.** -/
theorem changeAt_comm (hapart : Apart p q) (h h' : Option Item → Item) (o : Option Item) :
    changeAt h p (some (changeAt h' q o)) = changeAt h' q (some (changeAt h p o)) := by
  induction p generalizing q o with
  | nil => exact absurd List.nil_prefix hapart.1
  | cons k p ih =>
    cases q with
    | nil => exact absurd List.nil_prefix hapart.2
    | cons l q =>
      rw [changeAt, changeAt, changeAt, changeAt, changeTable_changeTable, changeTable_changeTable]
      congr 1
      funext entries
      by_cases hkl : k = l
      · subst hkl
        have hapart : Apart p q := by simpa [Apart, List.cons_prefix_cons] using hapart
        rw [Dict.find?_insert_self, Dict.find?_insert_self, Dict.insert_insert String.lt_irrefl,
          Dict.insert_insert String.lt_irrefl, ih hapart]
      · rw [Dict.find?_insert_of_ne hkl, Dict.find?_insert_of_ne (Ne.symm hkl),
          Dict.insert_comm hkl]

/-- What a path leads to. -/
def find? : List String → Option Item → Option Item
  | [], o => o
  | k :: path, o => find? path (Dict.find? k (reached o))

/-- What becomes of an item depends on what is at the place of the change. -/
theorem changeAt_congr (heq : h (find? p o) = h' (find? p o)) :
    changeAt h p o = changeAt h' p o := by
  induction p generalizing o with
  | nil => exact heq
  | cons k p ih =>
    rw [changeAt, changeAt]
    obtain ⟨items, entries, rfl⟩ | htable := changeTable_cases o
    · rw [find?, reached_array] at heq
      rw [changeTable_array, changeTable_array, ih heq]
    · rw [htable, htable, ih heq]

end Item

/-! ## Statements -/

/-- What a line says, with all keys from the main table on. -/
inductive Statement where
  /-- There is a table. -/
  | table (path : List String)
  /-- An array of tables has one more. -/
  | element (path : List String)
  /-- A key has a value. -/
  | value (path : List String) (v : Item)

namespace Statement

variable {s t : Statement} {p q : List String} {i : Item} {entries : List (String × Item)}
  {l l' : List Statement}

/-- Where something is said to be. -/
def path : Statement → List String
  | table path => path
  | element path => path
  | value path _ => path

/-- The statement about a place under another one. -/
def under (p : List String) : Statement → Statement
  | table path => table (p ++ path)
  | element path => element (p ++ path)
  | value path v => value (p ++ path) v

/-- What becomes of what was there before. -/
def change : Statement → Option Item → Item
  | table _ => fun o => o.getD (.table [])
  | element _ => fun
    | some (.array items) => .array (items ++ [.table []])
    | _ => .array [.table []]
  | value _ v => fun _ => v

/-- What becomes of a document by one more statement. -/
def step (i : Item) (s : Statement) : Item :=
  Item.changeAt s.change s.path (some i)

/-- The document that says what the statements say. -/
def run (l : List Statement) : Item :=
  l.foldl step (.table [])

theorem path_under (p : List String) (s : Statement) : (s.under p).path = p ++ s.path := by
  cases s <;> rfl

theorem change_under (p : List String) (s : Statement) : (s.under p).change = s.change := by
  cases s <;> rfl

/-- **Statements about places in an item change what is there as they would change it alone.** -/
theorem changeAt_foldl_step (start : Option Item → Item) (l : List Statement) (p : List String)
    (o : Option Item) :
    Item.changeAt (fun o => l.foldl step (start o)) p o =
      (l.map (under p)).foldl step (Item.changeAt start p o) := by
  induction l generalizing start with
  | nil => rfl
  | cons s l ih =>
    rw [List.map_cons, List.foldl_cons, step, change_under, path_under, Item.changeAt_append,
      Item.changeAt_changeAt]
    exact ih fun o => step (start o) s

/-- Entries in order, said one by one, come to a table of them. -/
theorem foldl_step_entries (slot : List (String × Item) → Item)
    (hslot : ∀ f entries, Item.changeTable f (some (slot entries)) = slot (f entries))
    (former : List (String × Item)) (hordered : Dict.Ordered (former ++ entries)) :
    (entries.map fun e => value [e.1] e.2).foldl step (slot former) = slot (former ++ entries) := by
  induction entries generalizing former with
  | nil => rw [List.append_nil]; rfl
  | cons e entries ih =>
    have hlast : ∀ f ∈ former, f.1 < e.1 := fun f hf =>
      (List.pairwise_append.1 hordered).2.2 f hf e List.mem_cons_self
    have hinsert : Dict.insert e.1 e.2 former = former ++ [e] := by
      simpa using Dict.insert_between (fun _ _ => String.lt_asymm) hlast
        (List.forall_mem_nil _) e.2
    rw [List.map_cons, List.foldl_cons, step, path, Item.changeAt, hslot]
    change List.foldl step (slot (Dict.insert e.1 e.2 former)) _ = _
    rw [hinsert, ih _ (by rwa [List.append_assoc]), List.append_assoc]
    rfl

/-! ## Other words for the same -/

/-- One statement or a few in a row, said otherwise. -/
inductive Rephrase : List Statement → List Statement → Prop where
  /-- Statements about different places change places. -/
  | swap (before after : List Statement) {s t : Statement} (h : Item.Apart s.path t.path) :
    Rephrase (before ++ s :: t :: after) (before ++ t :: s :: after)
  /-- A table need not be named before something in it is. -/
  | enter (before after : List Statement) {s : Statement} {p q : List String}
    (hpath : s.path = p ++ q) (hne : q ≠ []) :
    Rephrase (before ++ table p :: s :: after) (before ++ s :: after)
  /-- Nor after it. -/
  | stay (before after : List Statement) {s : Statement} {p q : List String}
    (hpath : s.path = p ++ q) :
    Rephrase (before ++ s :: table p :: after) (before ++ s :: after)
  /-- A table in braces is said entry by entry, where nothing was before. -/
  | braces (before after : List Statement) {p : List String} {entries : List (String × Item)}
    (hordered : Dict.Ordered entries) (hnew : Item.find? p (some (run before)) = none) :
    Rephrase (before ++ value p (.table entries) :: after)
      (before ++ table p :: (entries.map fun e => value (p ++ [e.1]) e.2) ++ after)
  /-- The last table of an array in brackets is said entry by entry. -/
  | brackets (before after : List Statement) {p : List String} {items : List Item}
    {entries : List (String × Item)} (hordered : Dict.Ordered entries) :
    Rephrase (before ++ value p (.array (items ++ [.table entries])) :: after)
      (before ++ value p (.array items) :: element p ::
        (entries.map fun e => value (p ++ [e.1]) e.2) ++ after)
  /-- An array need not be named before its first table is, where nothing was before. -/
  | first (before after : List Statement) {p : List String}
    (hnew : Item.find? p (some (run before)) = none) :
    Rephrase (before ++ value p (.array []) :: element p :: after) (before ++ element p :: after)

theorem map_under_entries (p : List String) (entries : List (String × Item)) :
    (entries.map fun e => value [e.1] e.2).map (under p) =
      entries.map fun e => value (p ++ [e.1]) e.2 := by
  rw [List.map_map]
  rfl

theorem step_swap (hapart : Item.Apart s.path t.path) (i : Item) :
    step (step i s) t = step (step i t) s :=
  Item.changeAt_comm ⟨hapart.2, hapart.1⟩ _ _ _

theorem step_enter (hpath : s.path = p ++ q) (hne : q ≠ []) (i : Item) :
    step (step i (table p)) s = step i s := by
  rw [step, step, path, hpath, Item.changeAt_append, Item.changeAt_changeAt, step, hpath,
    Item.changeAt_append]
  congr 1
  funext o
  obtain ⟨k, q, rfl⟩ := List.exists_cons_of_ne_nil hne
  cases o <;> rfl

theorem step_stay (hpath : s.path = p ++ q) (i : Item) : step (step i s) (table p) = step i s := by
  rw [step, step, path, hpath, Item.changeAt_append, Item.changeAt_changeAt]
  rfl

theorem foldl_step_braces (hordered : Dict.Ordered entries)
    (hnew : Item.find? p (some i) = none) :
    (table p :: entries.map fun e => value (p ++ [e.1]) e.2).foldl step i =
      step i (value p (.table entries)) := by
  rw [List.foldl_cons, step, path, ← map_under_entries, ← changeAt_foldl_step, step, path]
  refine Item.changeAt_congr ?_
  rw [hnew]
  exact foldl_step_entries .table (fun _ _ => rfl) [] hordered

theorem foldl_step_brackets {items : List Item} (hordered : Dict.Ordered entries) (i : Item) :
    (value p (.array items) :: element p ::
      entries.map fun e => value (p ++ [e.1]) e.2).foldl step i =
      step i (value p (.array (items ++ [.table entries]))) := by
  rw [List.foldl_cons, List.foldl_cons, step, step, path, path, Item.changeAt_changeAt,
    ← map_under_entries, ← changeAt_foldl_step, step, path]
  refine Item.changeAt_congr ?_
  exact foldl_step_entries (fun entries => .array (items ++ [.table entries]))
    (fun f => Item.changeTable_array f items) [] hordered

theorem step_first (hnew : Item.find? p (some i) = none) :
    step (step i (value p (.array []))) (element p) = step i (element p) := by
  rw [step, step, path, path, Item.changeAt_changeAt, step, path]
  refine Item.changeAt_congr ?_
  rw [hnew]
  rfl

/-- **Said otherwise, statements come to the same.** -/
theorem run_eq_of_rephrase (h : Rephrase l l') : run l = run l' := by
  cases h with
  | swap before after hapart =>
    simp only [run, List.foldl_append, List.foldl_cons, step_swap hapart]
  | enter before after hpath hne =>
    simp only [run, List.foldl_append, List.foldl_cons, step_enter hpath hne]
  | stay before after hpath =>
    simp only [run, List.foldl_append, List.foldl_cons, step_stay hpath]
  | braces before after hordered hnew =>
    rw [run, run, List.foldl_append, List.foldl_append, List.foldl_append, List.foldl_cons]
    exact congrArg (List.foldl step · after) (foldl_step_braces hordered hnew).symm
  | brackets before after hordered =>
    rw [run, run, List.foldl_append, List.foldl_append, List.foldl_append, List.foldl_cons]
    exact congrArg (List.foldl step · after) (foldl_step_brackets hordered _).symm
  | first before after hnew =>
    rw [run, run, List.foldl_append, List.foldl_append, List.foldl_cons, List.foldl_cons,
      List.foldl_cons]
    exact congrArg (List.foldl step · after) (step_first hnew)

/-- **However often they are said otherwise.** -/
theorem run_eq_of_eqvGen (h : Relation.EqvGen Rephrase l l') : run l = run l' := by
  induction h with
  | rel _ _ h => exact run_eq_of_rephrase h
  | refl _ => rfl
  | symm _ _ _ ih => exact ih.symm
  | trans _ _ _ _ _ ih ih' => exact ih.trans ih'

end Statement

end Toml

end Downstream
