import Downstream.Proofs.Toml.InOrder

/-!
# Values that say what their items say

`Item.Verbatim` holds of an item and a value that say the same at every depth. An item without
tables that stand for moments becomes such a value if all its numbers fit
(`Value.isSome_ofItem?_iff`). One with such tables becomes, if any, the value that says the same with
moments in their place (`Value.verbatim_dated`), which is another one
(`Value.verbatim_iff_of_ofItem?`).
-/

namespace Downstream.Toml

theorem isSome_int64?_iff {n : Int} :
    (int64? n).isSome ↔ -(twoTo 63 : Int) ≤ n ∧ n < twoTo 63 := by
  have hmin : Int64.minValue.toInt = -(twoTo 63 : Int) := by decide
  have hmax : Int64.maxValue.toInt = (twoTo 63 : Int) - 1 := by decide
  rw [int64?, hmin, hmax]
  split <;> simp <;> omega

/-- A whole number of 64 bits is itself. -/
theorem toInt_of_int64? {n : Int} {i : Int64} (h : int64? n = some i) : i.toInt = n := by
  unfold int64? at h
  split at h
  next hn =>
    cases h
    exact Int64.toInt_ofInt_of_le hn.1 (Int.lt_add_one_iff.2 hn.2)
  next => cases h

namespace Item

variable {i q : Item} {items : List Item} {entries : List (String × Item)} {p p' : Item → Prop}

/-- Items are made from their parts. -/
@[elab_as_elim]
theorem parts_induction {motive : Item → Prop} (string : ∀ s, motive (.string s))
    (integer : ∀ n, motive (.integer n)) (unreadable : motive .unreadable)
    (float : ∀ x, motive (.float x)) (boolean : ∀ b, motive (.boolean b))
    (moment : ∀ m, motive (.moment m))
    (array : ∀ items, (∀ i ∈ items, motive i) → motive (.array items))
    (table : ∀ entries, (∀ e ∈ entries, motive e.2) → motive (.table entries)) (i : Item) :
    motive i := by
  match i with
  | .string s => exact string s
  | .integer n => exact integer n
  | .unreadable => exact unreadable
  | .float x => exact float x
  | .boolean b => exact boolean b
  | .moment m => exact moment m
  | .array items =>
    exact array items fun i hi =>
      parts_induction string integer unreadable float boolean moment array table i
  | .table entries =>
    exact table entries fun e he =>
      parts_induction string integer unreadable float boolean moment array table e.2
termination_by sizeOf i
decreasing_by
  · have := List.sizeOf_lt_of_mem hi
    simp only [Item.array.sizeOf_spec]
    omega
  · have := List.sizeOf_lt_of_mem he
    have : sizeOf e = 1 + sizeOf e.1 + sizeOf e.2 := by cases e; rfl
    simp only [Item.table.sizeOf_spec]
    omega

/-! ## Parts -/

/-- An item is another one, or is held in it at any depth. -/
inductive Part (q : Item) : Item → Prop where
  | self : Part q q
  | element {items : List Item} {i : Item} (hmem : i ∈ items) (h : Part q i) :
    Part q (.array items)
  | entry {entries : List (String × Item)} {e : String × Item} (hmem : e ∈ entries)
    (h : Part q e.2) : Part q (.table entries)

/-- A property of an item and of all that is held in it. -/
def Everywhere (p : Item → Prop) (i : Item) : Prop :=
  ∀ q, Part q i → p q

theorem Everywhere.here (h : i.Everywhere p) : p i :=
  h i .self

theorem Everywhere.imp (h : i.Everywhere p) (himp : ∀ q, p q → p' q) : i.Everywhere p' :=
  fun q hq => himp q (h q hq)

theorem everywhere_array : (Item.array items).Everywhere p ↔
    p (.array items) ∧ ∀ i ∈ items, i.Everywhere p := by
  refine ⟨fun h => ⟨h.here, fun i hi q hq => h q (.element hi hq)⟩, fun h q hq => ?_⟩
  cases hq with
  | self => exact h.1
  | element hi hq => exact h.2 _ hi q hq

theorem everywhere_table : (Item.table entries).Everywhere p ↔
    p (.table entries) ∧ ∀ e ∈ entries, e.2.Everywhere p := by
  refine ⟨fun h => ⟨h.here, fun e he q hq => h q (.entry he hq)⟩, fun h q hq => ?_⟩
  cases hq with
  | self => exact h.1
  | entry he hq => exact h.2 _ he q hq

/-- Whether an item holds no others. -/
def isLeaf : Item → Bool
  | .array _ => false
  | .table _ => false
  | _ => true

theorem everywhere_leaf (i : Item) (hleaf : i.isLeaf = true) : i.Everywhere p ↔ p i := by
  refine ⟨Everywhere.here, fun h q hq => ?_⟩
  cases hq with
  | self => exact h
  | element => cases hleaf
  | entry => cases hleaf

/-! ## Properties of parts -/

/-- A number that a value can hold, or no number. -/
def Fits : Item → Prop
  | .integer n => (int64? n).isSome
  | .unreadable => False
  | .float x => x.toBinary64?.isSome
  | _ => True

/-- A table that does not start like one that stands for a moment, or no table. -/
def IsItself : Item → Prop
  | .table entries => ∀ e ∈ entries.head?, e.1 ≠ momentKey
  | _ => True

theorem momentText?_eq_none_iff :
    momentText? entries = none ↔ (Item.table entries).IsItself := by
  cases entries with
  | nil => simp [momentText?, IsItself]
  | cons e entries =>
    obtain ⟨k, i⟩ := e
    by_cases hk : k = momentKey
    · cases i <;> simp [momentText?, IsItself, hk]
    · simp [momentText?, IsItself, hk]

mutual

/-- The item with a moment in place of each table that stands for one. -/
def dated : Item → Item
  | .array items => .array (datedItems items)
  | .table entries =>
    match momentText? entries with
    | some (some m) => .moment m
    | _ => .table (datedEntries entries)
  | i => i

/-- The items with moments in place of tables. -/
def datedItems : List Item → List Item
  | [] => []
  | i :: rest => i.dated :: datedItems rest

/-- The entries with moments in place of tables. -/
def datedEntries : List (String × Item) → List (String × Item)
  | [] => []
  | (k, i) :: rest => (k, i.dated) :: datedEntries rest

end

theorem datedItems_eq_map (items : List Item) : datedItems items = items.map dated := by
  induction items with
  | nil => rfl
  | cons i items ih => rw [datedItems, ih, List.map_cons]

theorem datedEntries_eq_map (entries : List (String × Item)) :
    datedEntries entries = entries.map fun e => (e.1, e.2.dated) := by
  induction entries with
  | nil => rfl
  | cons e entries ih => rw [datedEntries, ih, List.map_cons]

/-! ## Items and values that say the same -/

/-- The value says what the item says, with the same keys in the same order, at every depth. A
number with a point or an exponent counts as the number nearest to it. -/
inductive Verbatim : Item → Value → Prop where
  | string (s : String) : Verbatim (.string s) (.string s)
  | integer {n : Int} {m : Int64} (h : m.toInt = n) : Verbatim (.integer n) (.integer m)
  | float {x : Numeral} {y : Binary64} (h : x.toBinary64? = some y) : Verbatim (.float x) (.float y)
  | boolean (b : Bool) : Verbatim (.boolean b) (.boolean b)
  | moment (m : Moment) : Verbatim (.moment m) (.moment m)
  | array {items : List Item} {values : List Value} (hlength : values.length = items.length)
    (h : ∀ (n : Nat) i v, items[n]? = some i → values[n]? = some v → Verbatim i v) :
    Verbatim (.array items) (.array values)
  | table {entries : List (String × Item)} {fields : List (String × Value)}
    (hkeys : fields.map Prod.fst = entries.map Prod.fst)
    (h : ∀ (n : Nat) e f, entries[n]? = some e → fields[n]? = some f → Verbatim e.2 f.2) :
    Verbatim (.table entries) (.table fields)

end Item

namespace Value

open Item (Fits IsItself)

variable {i : Item} {v : Value} {items : List Item} {values : List Value}
  {entries : List (String × Item)} {fields : List (String × Value)}

/-! ## Whether there is a value -/

theorem isSome_ofItems?_iff {p : Item → Prop} (h : ∀ i ∈ items, (ofItem? i).isSome ↔ p i) :
    (ofItems? items).isSome ↔ ∀ i ∈ items, p i := by
  induction items with
  | nil => simp [ofItems?]
  | cons i items ih =>
    obtain ⟨hi, hitems⟩ := List.forall_mem_cons.1 h
    rw [List.forall_mem_cons, ← hi, ← ih hitems, ofItems?]
    cases ofItem? i <;> cases ofItems? items <;> simp

theorem isSome_ofEntries?_iff {p : Item → Prop}
    (h : ∀ e ∈ entries, (ofItem? e.2).isSome ↔ p e.2) :
    (ofEntries? entries).isSome ↔ ∀ e ∈ entries, p e.2 := by
  induction entries with
  | nil => simp [ofEntries?]
  | cons e entries ih =>
    obtain ⟨he, hentries⟩ := List.forall_mem_cons.1 h
    obtain ⟨k, i⟩ := e
    rw [List.forall_mem_cons, ← he, ← ih hentries, ofEntries?]
    cases ofItem? i <;> cases ofEntries? entries <;> simp

/-- **An item without tables for moments has a value if all its numbers fit.** -/
theorem isSome_ofItem?_iff (h : i.Everywhere IsItself) :
    (ofItem? i).isSome ↔ i.Everywhere Fits := by
  induction i using Item.parts_induction with
  | array items ih =>
    obtain ⟨-, hitems⟩ := Item.everywhere_array.1 h
    rw [Item.everywhere_array, ofItem?, Option.isSome_map,
      isSome_ofItems?_iff fun i hi => ih i hi (hitems i hi)]
    exact (and_iff_right trivial).symm
  | table entries ih =>
    obtain ⟨hself, hentries⟩ := Item.everywhere_table.1 h
    rw [Item.everywhere_table, ofItem?, Item.momentText?_eq_none_iff.2 hself]
    dsimp only
    rw [Option.isSome_map, isSome_ofEntries?_iff fun e he => ih e he (hentries e he)]
    exact (and_iff_right trivial).symm
  | integer n => rw [Item.everywhere_leaf (.integer n) rfl, ofItem?, Option.isSome_map, Fits]
  | float x => rw [Item.everywhere_leaf (.float x) rfl, ofItem?, Option.isSome_map, Fits]
  | unreadable => rw [Item.everywhere_leaf .unreadable rfl, ofItem?, Fits]; simp
  | string s => exact iff_of_true rfl ((Item.everywhere_leaf (.string s) rfl).2 trivial)
  | boolean b => exact iff_of_true rfl ((Item.everywhere_leaf (.boolean b) rfl).2 trivial)
  | moment m => exact iff_of_true rfl ((Item.everywhere_leaf (.moment m) rfl).2 trivial)

theorem isSome_ofEntries? (h : ∀ e ∈ entries, e.2.Everywhere IsItself) :
    (ofEntries? entries).isSome ↔ ∀ e ∈ entries, e.2.Everywhere Fits :=
  isSome_ofEntries?_iff fun e he => isSome_ofItem?_iff (h e he)

/-! ## What the value says -/

/-- The values are those of the items, one by one. -/
theorem of_ofItems? (h : ofItems? items = some values) : values.length = items.length ∧
    ∀ (n : Nat) i v, items[n]? = some i → values[n]? = some v → ofItem? i = some v := by
  induction items generalizing values with
  | nil =>
    cases h
    exact ⟨rfl, nofun⟩
  | cons i items ih =>
    simp only [ofItems?, Option.bind_eq_bind, Option.bind_eq_some_iff, Option.pure_def,
      Option.some.injEq] at h
    obtain ⟨v, hv, rest, hrest, rfl⟩ := h
    obtain ⟨hlength, hitems⟩ := ih hrest
    refine ⟨congrArg Nat.succ hlength, fun n j w hj hw => ?_⟩
    cases n with
    | zero =>
      cases hj
      cases hw
      exact hv
    | succ n => exact hitems n j w hj hw

/-- The entries have the same keys, and their values are those of the items. -/
theorem of_ofEntries? (h : ofEntries? entries = some fields) :
    fields.map Prod.fst = entries.map Prod.fst ∧
      ∀ (n : Nat) e f, entries[n]? = some e → fields[n]? = some f → ofItem? e.2 = some f.2 := by
  induction entries generalizing fields with
  | nil =>
    cases h
    exact ⟨rfl, nofun⟩
  | cons e entries ih =>
    simp only [ofEntries?, Option.bind_eq_bind, Option.bind_eq_some_iff, Option.pure_def,
      Option.some.injEq] at h
    obtain ⟨v, hv, rest, hrest, rfl⟩ := h
    obtain ⟨hkeys, hentries⟩ := ih hrest
    refine ⟨by rw [List.map_cons, List.map_cons, hkeys], fun n e' f he hf => ?_⟩
    cases n with
    | zero =>
      cases he
      cases hf
      exact hv
    | succ n => exact hentries n e' f he hf

/-- A place in one of two lists of one length is a place in the other. -/
theorem exists_getElem?_of_length {α β : Type} {a : List α} {b : List β}
    (hlength : b.length = a.length) {x : α} (hx : x ∈ a) :
    ∃ (n : Nat) (y : β), a[n]? = some x ∧ b[n]? = some y := by
  obtain ⟨n, hn, rfl⟩ := List.getElem_of_mem hx
  exact ⟨n, b[n], List.getElem?_eq_getElem hn, List.getElem?_eq_getElem (hlength ▸ hn)⟩

/-- An entry among entries has its counterpart among others with the same keys. -/
theorem exists_getElem?_of_keys {α β : Type} {d : List (String × α)} {d' : List (String × β)}
    (hkeys : d'.map Prod.fst = d.map Prod.fst) {e : String × α} (he : e ∈ d) :
    ∃ (n : Nat) (f : String × β), d[n]? = some e ∧ d'[n]? = some f :=
  exists_getElem?_of_length (by simpa using congrArg List.length hkeys) he

theorem verbatim_dated_entries
    (ih : ∀ e ∈ entries, ∀ v, ofItem? e.2 = some v → e.2.dated.Verbatim v)
    (h : ofEntries? entries = some fields) :
    (Item.table (Item.datedEntries entries)).Verbatim (.table fields) := by
  obtain ⟨hkeys, hvalues⟩ := of_ofEntries? h
  rw [Item.datedEntries_eq_map]
  refine .table (by rw [hkeys, List.map_map]; rfl) fun n e f he hf => ?_
  rw [List.getElem?_map, Option.map_eq_some_iff] at he
  obtain ⟨e, he, rfl⟩ := he
  exact ih e (List.mem_of_getElem? he) f.2 (hvalues n e f he hf)

/-- **A value says what its item says with moments in place of the tables that stand for them.** -/
theorem verbatim_dated (h : ofItem? i = some v) : i.dated.Verbatim v := by
  induction i using Item.parts_induction generalizing v with
  | array items ih =>
    obtain ⟨values, hvalues, rfl⟩ := Option.map_eq_some_iff.1 h
    obtain ⟨hlength, hitems⟩ := of_ofItems? hvalues
    rw [Item.dated, Item.datedItems_eq_map]
    refine .array (by rw [hlength, List.length_map]) fun n i v hi hv => ?_
    rw [List.getElem?_map, Option.map_eq_some_iff] at hi
    obtain ⟨i, hi, rfl⟩ := hi
    exact ih i (List.mem_of_getElem? hi) (hitems n i v hi hv)
  | table entries ih =>
    rw [ofItem?] at h
    rw [Item.dated]
    split at h
    next m hmoment =>
      obtain ⟨m, rfl, rfl⟩ := Option.map_eq_some_iff.1 h
      rw [hmoment]
      exact .moment m
    next hmoment =>
      obtain ⟨fields, hfields, rfl⟩ := Option.map_eq_some_iff.1 h
      rw [hmoment]
      exact verbatim_dated_entries (fun e he v => ih e he) hfields
  | integer n =>
    obtain ⟨m, hm, rfl⟩ := Option.map_eq_some_iff.1 h
    exact .integer (toInt_of_int64? hm)
  | float x =>
    obtain ⟨y, hy, rfl⟩ := Option.map_eq_some_iff.1 h
    exact .float hy
  | unreadable => cases h
  | string s =>
    cases h
    exact .string s
  | boolean b =>
    cases h
    exact .boolean b
  | moment m =>
    cases h
    exact .moment m

theorem verbatim_array_iff
    (ih : ∀ i ∈ items, ∀ v, ofItem? i = some v → (i.Verbatim v ↔ i.Everywhere IsItself))
    (h : ofItems? items = some values) :
    (Item.array items).Verbatim (.array values) ↔ ∀ i ∈ items, i.Everywhere IsItself := by
  obtain ⟨hlength, hitems⟩ := of_ofItems? h
  constructor
  · intro hverbatim i hi
    cases hverbatim with
    | array _ hverbatim =>
      obtain ⟨n, v, hn, hv⟩ := exists_getElem?_of_length hlength hi
      exact (ih i hi v (hitems n i v hn hv)).1 (hverbatim n i v hn hv)
  · intro hself
    refine .array hlength fun n i v hn hv => ?_
    have hi := List.mem_of_getElem? hn
    exact (ih i hi v (hitems n i v hn hv)).2 (hself i hi)

theorem verbatim_table_iff
    (ih : ∀ e ∈ entries, ∀ v, ofItem? e.2 = some v →
      (e.2.Verbatim v ↔ e.2.Everywhere IsItself))
    (h : ofEntries? entries = some fields) :
    (Item.table entries).Verbatim (.table fields) ↔
      ∀ e ∈ entries, e.2.Everywhere IsItself := by
  obtain ⟨hkeys, hvalues⟩ := of_ofEntries? h
  constructor
  · intro hverbatim e he
    cases hverbatim with
    | table _ hverbatim =>
      obtain ⟨n, f, hn, hf⟩ := exists_getElem?_of_keys hkeys he
      exact (ih e he f.2 (hvalues n e f hn hf)).1 (hverbatim n e f hn hf)
  · intro hself
    refine .table hkeys fun n e f hn hf => ?_
    have he := List.mem_of_getElem? hn
    exact (ih e he f.2 (hvalues n e f hn hf)).2 (hself e he)

/-- **A value says what its item says exactly if no table in the item stands for a moment.** -/
theorem verbatim_iff_of_ofItem? (h : ofItem? i = some v) :
    i.Verbatim v ↔ i.Everywhere IsItself := by
  induction i using Item.parts_induction generalizing v with
  | array items ih =>
    obtain ⟨values, hvalues, rfl⟩ := Option.map_eq_some_iff.1 h
    rw [Item.everywhere_array, verbatim_array_iff (fun i hi v => ih i hi) hvalues]
    exact (and_iff_right trivial).symm
  | table entries ih =>
    rw [ofItem?] at h
    rw [Item.everywhere_table, ← Item.momentText?_eq_none_iff]
    split at h
    next m hmoment =>
      -- the value is a moment, and the item is none
      obtain ⟨m, -, rfl⟩ := Option.map_eq_some_iff.1 h
      refine iff_of_false (fun hverbatim => ?_) fun hself => ?_
      · cases hverbatim
      · cases hself.1.symm.trans hmoment
    next hmoment =>
      obtain ⟨fields, hfields, rfl⟩ := Option.map_eq_some_iff.1 h
      rw [verbatim_table_iff (fun e he v => ih e he) hfields]
      exact (and_iff_right hmoment).symm
  | integer n =>
    obtain ⟨m, hm, rfl⟩ := Option.map_eq_some_iff.1 h
    exact iff_of_true (.integer (toInt_of_int64? hm))
      ((Item.everywhere_leaf (.integer n) rfl).2 trivial)
  | float x =>
    obtain ⟨y, hy, rfl⟩ := Option.map_eq_some_iff.1 h
    exact iff_of_true (.float hy) ((Item.everywhere_leaf (.float x) rfl).2 trivial)
  | unreadable => cases h
  | string s =>
    cases h
    exact iff_of_true (.string s) ((Item.everywhere_leaf (.string s) rfl).2 trivial)
  | boolean b =>
    cases h
    exact iff_of_true (.boolean b) ((Item.everywhere_leaf (.boolean b) rfl).2 trivial)
  | moment m =>
    cases h
    exact iff_of_true (.moment m) ((Item.everywhere_leaf (.moment m) rfl).2 trivial)

theorem verbatim_dated_of_ofEntries? (h : ofEntries? entries = some fields) :
    (Item.table (Item.datedEntries entries)).Verbatim (.table fields) :=
  verbatim_dated_entries (fun _ _ _ => verbatim_dated) h

theorem verbatim_iff_of_ofEntries? (h : ofEntries? entries = some fields) :
    (Item.table entries).Verbatim (.table fields) ↔
      ∀ e ∈ entries, e.2.Everywhere IsItself :=
  verbatim_table_iff (fun _ _ _ => verbatim_iff_of_ofItem?) h

end Value

end Downstream.Toml
