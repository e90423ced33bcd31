import Downstream.Toml.Item

/-!
# How the tables of a document come together

A document says piece by piece what its tables hold. Each table remembers how it came to be, which
decides what may still be added: a table with a header of its own gets no second one, a dotted key
goes only through tables that dotted keys or longer headers brought about, and a value is closed. No
key gets two values. Every function fails where a piece breaks these rules.
-/

namespace Downstream.Toml

/-- How a table came to be. -/
inductive Origin where
  /-- It has a header. -/
  | header
  /-- The header of a table in it names it. -/
  | implied
  /-- A dotted key goes through it. -/
  | dotted
  deriving Repr, DecidableEq

/-- What a key of a table stands for while the document is gone through. -/
inductive Node where
  | value (v : Item)
  | table (origin : Origin) (entries : List (String × Node))
  /-- An array of tables that all have headers. -/
  | tables (earlier : List (List (String × Node))) (last : List (String × Node))
  deriving Repr

/-- The entries of a table, in ascending order of their keys. -/
abbrev Entries := Dict String Node

/-! ## What nodes stand for -/

mutual

/-- The value that a node stands for. -/
def Node.item : Node → Item
  | .value v => v
  | .table _ entries => .table (itemsOf entries)
  | .tables earlier last => .array (tablesOf earlier ++ [.table (itemsOf last)])

/-- The values of entries. -/
def itemsOf : List (String × Node) → List (String × Item)
  | [] => []
  | (k, n) :: rest => (k, n.item) :: itemsOf rest

/-- The tables in an array. -/
def tablesOf : List (List (String × Node)) → List Item
  | [] => []
  | entries :: rest => .table (itemsOf entries) :: tablesOf rest

end

namespace Entries

/-- Changes the table that a path leads to; of an array of tables it leads to the last one. Tables
that are not there yet are made. `dotted` tells the path of a dotted key from that of a header, and
`change` is told whether the table came to be by a dotted key, which `here` says of the table that
the path starts from. -/
def changeAt (dotted : Bool) (change : Bool → Entries → Option Entries) :
    (here : Bool) → Entries → (path : List String) → Option Entries
  | here, entries, [] => change here entries
  | _, entries, k :: path =>
    match Dict.find? k entries with
    | none => do
      let t ← changeAt dotted change dotted [] path
      return Dict.insert k (.table (if dotted then .dotted else .implied) t) entries
    | some (.table origin t) =>
      if dotted ∧ origin = .header then none
      else do
        let t ← changeAt dotted change (origin = .dotted) t path
        return Dict.insert k (.table origin t) entries
    | some (.tables earlier last) => do
      let last ← changeAt dotted change false last path
      return Dict.insert k (.tables earlier last) entries
    | some (.value _) => none

/-- Gives a key its value. The key may be dotted: `path` holds the keys before the last dot. -/
def define (entries : Entries) (path : List String) (k : String) (v : Item) : Option Entries :=
  entries.changeAt true
    (fun here t =>
      if here = path.isEmpty then none
      else if (Dict.find? k t).isSome then none
      else some (Dict.insert k (.value v) t))
    false path

end Entries

/-- A key with its value, as a line says it. -/
structure Entry where
  /-- The keys before the last dot. -/
  path : List String
  key : String
  value : Item
  deriving Repr

/-- A header. -/
structure Header where
  /-- Whether it starts a new table of an array. -/
  isElement : Bool
  /-- The keys before the last dot. -/
  path : List String
  key : String
  deriving Repr

/-- A line that says something. -/
inductive Line where
  | entry (e : Entry)
  | header (h : Header)
  deriving Repr

/-- Lines up to the first header. -/
def leading : List Line → List Entry
  | .entry e :: rest => e :: leading rest
  | _ => []

/-- The headers with the lines up to the next one. -/
def sections : List Line → List (Header × List Entry)
  | [] => []
  | .entry _ :: rest => sections rest
  | .header h :: rest => (h, leading rest) :: sections rest

namespace Entries

/-- Adds what lines say to the entries of their table. -/
def defineAll (entries : Entries) (lines : List Entry) : Option Entries :=
  lines.foldlM (fun entries e => entries.define e.path e.key e.value) entries

/-- Adds a table with a header and its lines. -/
def addSection (entries : Entries) (h : Header) (lines : List Entry) : Option Entries :=
  entries.changeAt false
    (fun _ t =>
      match Dict.find? h.key t, h.isElement with
      | none, false => do
        let new ← defineAll [] lines
        return Dict.insert h.key (.table .header new) t
      | none, true => do
        let new ← defineAll [] lines
        return Dict.insert h.key (.tables [] new) t
      | some (.table .implied former), false => do
        let new ← defineAll former lines
        return Dict.insert h.key (.table .header new) t
      | some (.tables earlier last), true => do
        let new ← defineAll [] lines
        return Dict.insert h.key (.tables (earlier ++ [last]) new) t
      | _, _ => none)
    false h.path

/-- The entries of the main table of a document. -/
def ofLines? (lines : List Line) : Option Entries := do
  let entries ← defineAll [] (leading lines)
  (sections lines).foldlM (fun entries (h, lines) => entries.addSection h lines) entries

end Entries

end Downstream.Toml
