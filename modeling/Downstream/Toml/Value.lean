import Downstream.Number.Shortest
import Downstream.Toml.Item

/-!
# Values that a program holds

A value is an item whose numbers fit: whole numbers of 64 bits and double-precision numbers.
`Value.ofItem?` takes an item for its value and fails where a number does not fit. A table whose
first key is `momentKey` stands for a moment, which it holds as a text.
-/

namespace Downstream.Toml

/-- A value. The entries of a table are in ascending order of their keys. -/
inductive Value where
  | string (s : String)
  | integer (n : Int64)
  | float (x : Binary64)
  | boolean (b : Bool)
  | moment (m : Moment)
  | array (values : List Value)
  | table (entries : List (String × Value))
  deriving Repr

/-- The entries of a table, in ascending order of their keys. -/
abbrev Table := Dict String Value

/-- The key under which a table holds the text of the moment that it stands for. -/
def momentKey : String := "$__toml_private_datetime"

/-- The whole number `n` in 64 bits. -/
def int64? (n : Int) : Option Int64 :=
  if Int64.minValue.toInt ≤ n ∧ n ≤ Int64.maxValue.toInt then some (Int64.ofInt n) else none

/-- The moment that a table with these entries stands for; `none` if it stands for itself. -/
def momentText? : List (String × Item) → Option (Option Moment)
  | (k, v) :: _ =>
    if k = momentKey then
      match v with
      | .string s => some (Moment.read? s.toList)
      | _ => some none
    else none
  | [] => none

mutual

/-- The value of an item. -/
def Value.ofItem? : Item → Option Value
  | .string s => some (.string s)
  | .integer n => (int64? n).map .integer
  | .unreadable => none
  | .float x => x.toBinary64?.map .float
  | .boolean b => some (.boolean b)
  | .moment m => some (.moment m)
  | .array items => (Value.ofItems? items).map .array
  | .table entries =>
    match momentText? entries with
    | some m => m.map .moment
    | none => (Value.ofEntries? entries).map .table

/-- The values of items. -/
def Value.ofItems? : List Item → Option (List Value)
  | [] => some []
  | v :: rest => do
    let v ← Value.ofItem? v
    let rest ← Value.ofItems? rest
    return v :: rest

/-- The values of entries. -/
def Value.ofEntries? : List (String × Item) → Option (List (String × Value))
  | [] => some []
  | (k, v) :: rest => do
    let v ← Value.ofItem? v
    let rest ← Value.ofEntries? rest
    return (k, v) :: rest

end

/-! ## Equality -/

mutual

/-- The values are equal, numbers by their values. -/
def Value.same : Value → Value → Bool
  | .string a, .string b => a == b
  | .integer a, .integer b => a == b
  | .float a, .float b => a.same b
  | .boolean a, .boolean b => a == b
  | .moment a, .moment b => a == b
  | .array a, .array b => Value.sameItems a b
  | .table a, .table b => Value.sameEntries a b
  | _, _ => false

/-- The values are equal one by one. -/
def Value.sameItems : List Value → List Value → Bool
  | [], [] => true
  | a :: as, b :: bs => Value.same a b && Value.sameItems as bs
  | _, _ => false

/-- The keys and values are equal one by one. -/
def Value.sameEntries : List (String × Value) → List (String × Value) → Bool
  | [], [] => true
  | (k, a) :: as, (l, b) :: bs => k == l && Value.same a b && Value.sameEntries as bs
  | _, _ => false

end

end Downstream.Toml
