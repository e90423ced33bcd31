import Downstream.Proofs.Toml.Number
import Downstream.Toml.Value

/-!
# Values and what a document says of them

`Value.item` is what a document says of a value that is written into it. The value is found in it
again (`Value.ofItem?_item`) if it is sound: its tables are in order, and none stands for a moment.
-/

namespace Downstream

/-- An entry between smaller and greater ones. -/
theorem Dict.insert_between {κ α : Type} [LT κ] [DecidableLT κ] [DecidableEq κ]
    (asymm : ∀ a b : κ, a < b → ¬b < a) {k : κ} {d d' : Dict κ α} (h : ∀ e ∈ d, e.1 < k)
    (h' : ∀ e ∈ d', k < e.1) (v : α) : Dict.insert k v (d ++ d') = d ++ (k, v) :: d' := by
  induction d with
  | nil =>
    cases d' with
    | nil => rfl
    | cons e d' => simp [Dict.insert, h' e List.mem_cons_self]
  | cons e rest ih =>
    obtain ⟨hlt, hrest⟩ := List.forall_mem_cons.1 h
    have hne : k ≠ e.1 := by
      rintro rfl
      exact asymm _ _ hlt hlt
    simp [Dict.insert, asymm _ _ hlt, hne, ih hrest]

theorem Dict.find?_eq_none {κ α : Type} [DecidableEq κ] {k : κ} {d : Dict κ α}
    (h : ∀ e ∈ d, k ≠ e.1) : Dict.find? k d = none := by
  induction d with
  | nil => rfl
  | cons e rest ih =>
    obtain ⟨hne, hrest⟩ := List.forall_mem_cons.1 h
    rw [Dict.find?, if_neg hne, ih hrest]

namespace Toml

namespace Value

/-! ## Shape -/

mutual

/-- How deep the brackets of a value nest. -/
def depth : Value → Nat
  | .array values => depthOfItems values + 1
  | .table entries => depthOfEntries entries + 1
  | _ => 0

/-- How deep the brackets of values nest. -/
def depthOfItems : List Value → Nat
  | [] => 0
  | v :: rest => max v.depth (depthOfItems rest)

/-- How deep the brackets of entries nest. -/
def depthOfEntries : List (String × Value) → Nat
  | [] => 0
  | (_, v) :: rest => max v.depth (depthOfEntries rest)

end

theorem depthOfItems_le_iff {values : List Value} {n : Nat} :
    depthOfItems values ≤ n ↔ ∀ v ∈ values, v.depth ≤ n := by
  induction values with
  | nil => simp [depthOfItems]
  | cons v rest ih => simp [depthOfItems, Nat.max_le, ih]

theorem depthOfEntries_le_iff {entries : List (String × Value)} {n : Nat} :
    depthOfEntries entries ≤ n ↔ ∀ e ∈ entries, e.2.depth ≤ n := by
  induction entries with
  | nil => simp [depthOfEntries]
  | cons e rest ih => simp [depthOfEntries, Nat.max_le, ih]

/-- The entries do not start like those of a table that stands for a moment. -/
def StandsForItself (entries : List (String × Value)) : Prop :=
  ∀ e ∈ entries.head?, e.1 ≠ momentKey

/-- The tables in a value are in order, and none stands for a moment. -/
inductive Sound : Value → Prop where
  | string (s : String) : Sound (.string s)
  | integer (n : Int64) : Sound (.integer n)
  | float (x : Binary64) : Sound (.float x)
  | boolean (b : Bool) : Sound (.boolean b)
  | moment (m : Moment) : Sound (.moment m)
  | array {values : List Value} (h : ∀ v ∈ values, Sound v) : Sound (.array values)
  | table {entries : List (String × Value)} (hordered : Dict.Ordered entries)
    (hself : StandsForItself entries) (h : ∀ e ∈ entries, Sound e.2) : Sound (.table entries)

/-! ### Values that programs build -/

/-- A value as a program builds it: tables are in order and do not use the key of moments, and every
number is one. -/
inductive Regular : Value → Prop where
  | string (s : String) : Regular (.string s)
  | integer (n : Int64) : Regular (.integer n)
  | float {x : Binary64} (h : x ≠ .nan) : Regular (.float x)
  | boolean (b : Bool) : Regular (.boolean b)
  | moment (m : Moment) : Regular (.moment m)
  | array {values : List Value} (h : ∀ v ∈ values, Regular v) : Regular (.array values)
  | table {entries : List (String × Value)} (hordered : Dict.Ordered entries)
    (hkey : ∀ e ∈ entries, e.1 ≠ momentKey) (h : ∀ e ∈ entries, Regular e.2) :
    Regular (.table entries)

theorem Regular.sound {v : Value} (h : v.Regular) : v.Sound := by
  induction h with
  | string s => exact .string s
  | integer n => exact .integer n
  | float _ => exact .float _
  | boolean b => exact .boolean b
  | moment m => exact .moment m
  | array _ ih => exact .array ih
  | table hordered hkey _ ih => exact .table hordered (fun e he => hkey e (List.mem_of_head? he)) ih

theorem sameItems_self {values : List Value} (h : ∀ v ∈ values, v.same v = true) :
    sameItems values values = true := by
  induction values with
  | nil => rfl
  | cons v rest ih =>
    obtain ⟨hv, hrest⟩ := List.forall_mem_cons.1 h
    rw [sameItems, hv, ih hrest, Bool.and_self]

theorem sameEntries_self {entries : List (String × Value)}
    (h : ∀ e ∈ entries, e.2.same e.2 = true) : sameEntries entries entries = true := by
  induction entries with
  | nil => rfl
  | cons e rest ih =>
    obtain ⟨he, hrest⟩ := List.forall_mem_cons.1 h
    rw [sameEntries, he, ih hrest, beq_self_eq_true, Bool.and_self, Bool.and_self]

/-- Such a value equals itself. -/
theorem Regular.same_self {v : Value} (h : v.Regular) : v.same v = true := by
  induction h with
  | @float x h => cases x <;> simp_all [same, Binary64.same]
  | array _ ih => exact sameItems_self ih
  | table _ _ _ ih => exact sameEntries_self ih
  | _ => exact beq_self_eq_true _

/-! ## Items -/

mutual

/-- What a document says of a value. -/
def item : Value → Item
  | .string s => .string s
  | .integer n => .integer n.toInt
  | .float x => .float x.numeral
  | .boolean b => .boolean b
  | .moment m => .moment m
  | .array values => .array (items values)
  | .table entries => .table (itemEntries entries)

/-- What a document says of values. -/
def items : List Value → List Item
  | [] => []
  | v :: rest => v.item :: items rest

/-- What a document says of entries. -/
def itemEntries : List (String × Value) → List (String × Item)
  | [] => []
  | (k, v) :: rest => (k, v.item) :: itemEntries rest

end

theorem items_eq_map (values : List Value) : items values = values.map item := by
  induction values with
  | nil => rfl
  | cons v rest ih => rw [items, ih, List.map_cons]

theorem momentText?_itemEntries {entries : List (String × Value)} (h : StandsForItself entries) :
    momentText? (itemEntries entries) = none := by
  cases entries with
  | nil => rfl
  | cons e rest => simp [itemEntries, momentText?, h e rfl]

theorem ofItems?_items {values : List Value} (h : ∀ v ∈ values, ofItem? v.item = some v) :
    ofItems? (items values) = some values := by
  induction values with
  | nil => rfl
  | cons v rest ih =>
    obtain ⟨hv, hrest⟩ := List.forall_mem_cons.1 h
    simp [items, ofItems?, hv, ih hrest]

theorem ofEntries?_itemEntries {entries : List (String × Value)}
    (h : ∀ e ∈ entries, ofItem? e.2.item = some e.2) :
    ofEntries? (itemEntries entries) = some entries := by
  induction entries with
  | nil => rfl
  | cons e rest ih =>
    obtain ⟨he, hrest⟩ := List.forall_mem_cons.1 h
    simp [itemEntries, ofEntries?, he, ih hrest]

theorem int64?_toInt (n : Int64) : int64? n.toInt = some n := by
  rw [int64?, if_pos ⟨n.minValue_le_toInt, n.toInt_le⟩, Int64.ofInt_toInt]

/-- **A sound value is found again** in what a document says of it. -/
theorem ofItem?_item {v : Value} (h : v.Sound) : ofItem? v.item = some v := by
  induction h with
  | string s => rfl
  | integer n => simp [item, ofItem?, int64?_toInt]
  | float x => simp [item, ofItem?, x.toBinary64?_numeral]
  | boolean b => rfl
  | moment m => rfl
  | array _ ih => simp [item, ofItem?, ofItems?_items ih]
  | table hordered hself _ ih =>
    simp [item, ofItem?, momentText?_itemEntries hself, ofEntries?_itemEntries ih]

end Value

end Toml

end Downstream
