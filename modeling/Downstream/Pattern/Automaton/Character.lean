import Std.Data.HashMap
import Downstream.Pattern.Automaton.Basic
import Downstream.Text.Utf8.Blocks
import Downstream.Unicode.Ranges

/-!
# The automaton for one character of a set

A set of characters is cut into blocks, whose bytes lie in byte ranges. Read from the first byte on,
blocks that start alike share states, and so do states that go on alike, as far as the automaton
remembers them; read from the last byte on, blocks that end alike do. What is remembered is kept in
a fixed number of slots, and a state takes the slot of its key from the one that had it before.
-/

namespace Downstream.Pattern

open Unicode (Ranges)
open Utf8 (ByteRange)

/-! ## Slots -/

/-- The slot of a key among `slots`, by a hash of 64 bits into which the numbers of the key are
mixed one after the other. -/
def slotOf (slots : Nat) (key : List Nat) : Nat :=
  let hash := key.foldl (fun (h : UInt64) n => (h ^^^ n.toUInt64) * 1099511628211)
    14695981039346656037
  hash.toNat % slots

/-- States that are remembered by keys: in each slot the last key and its state. -/
abbrev Slots := Std.HashMap Nat (List Nat × Nat)

namespace Slots

/-- The state remembered for a key. -/
def find? (m : Slots) (slot : Nat) (key : List Nat) : Option Nat :=
  match m[slot]? with
  | some (k, state) => if k = key then some state else none
  | none => none

end Slots

/-! ## From the first byte on -/

/-- The number of slots for states that read from the first byte on. -/
def forwardSlots : Nat := 10000

/-- A step over a byte range to the state of a number. -/
structure Step where
  range : ByteRange
  next : Nat
  deriving Repr, DecidableEq

/-- What is known while the states of a set are made. -/
structure Sharing where
  tally : Tally
  slots : Slots

/-- The state that goes on in these steps: one that is remembered, or a new one. -/
def Sharing.stateFor (s : Sharing) (steps : List Step) : Nat × Sharing :=
  let key := steps.flatMap fun t => [t.range.1.toNat, t.range.2.toNat, t.next]
  let slot := slotOf forwardSlots key
  match s.slots.find? slot key with
  | some state => (state, s)
  | none =>
    let state := s.tally.states
    (state, ⟨s.tally.addChoice steps.length, s.slots.insert slot (key, state)⟩)

/-- Rows of byte ranges that start alike, taken together: the first range and the rows after it.
Only rows next to one another are. -/
def groupByFirst : List (List ByteRange) → List (ByteRange × List (List ByteRange))
  | [] => []
  | [] :: rest => groupByFirst rest
  | (range :: tail) :: rest =>
    match groupByFirst rest with
    | (next, tails) :: groups =>
      if next = range then (range, tail :: tails) :: groups
      else (range, [tail]) :: (next, tails) :: groups
    | [] => [(range, [tail])]

/-- The state that reads one of the rows and goes on at `target`. A row has `length` ranges at
most. -/
def Sharing.readRows (target : Nat) : (length : Nat) → List (List ByteRange) → Sharing →
    Nat × Sharing
  | 0, _, s => (target, s)
  | length + 1, rows, s =>
    let (steps, s) := (groupByFirst rows).foldl
      (fun (steps, s) (range, tails) =>
        let (next, s) :=
          if tails.all List.isEmpty then (target, s) else readRows target length tails s
        (⟨range, next⟩ :: steps, s))
      (([] : List Step), s)
    s.stateFor steps.reverse

/-- Adds the states that read a character of one of the rows from its first byte on. -/
def Tally.addCharacterForward (t : Tally) (rows : List (List ByteRange)) : Tally :=
  (Sharing.readRows t.states 4 rows ⟨t.addState, {}⟩).2.tally

/-! ## From the last byte on -/

/-- The number of slots for states that read from the last byte on. -/
def backwardSlots : Nat := 1000

/-- The state that reads a byte range before it goes on at `next`: one that is remembered, or a new
one. -/
def Sharing.stateBefore (s : Sharing) (next : Nat) (range : ByteRange) : Nat × Sharing :=
  let key := [next, range.1.toNat, range.2.toNat]
  let slot := slotOf backwardSlots key
  match s.slots.find? slot key with
  | some state => (state, s)
  | none =>
    let state := s.tally.states
    (state, ⟨s.tally.addState, s.slots.insert slot (key, state)⟩)

/-- Adds the states that read a character of one of the rows from its last byte on: a fork with a
branch for every row. -/
def Tally.addCharacterBackward (t : Tally) (rows : List (List ByteRange)) : Tally :=
  let target := t.states + 1
  let s : Sharing := ⟨(t.addFork rows.length).addState, {}⟩
  let read (s : Sharing) (row : List ByteRange) : Sharing :=
    (row.foldl (fun (next, s) range => s.stateBefore next range) (target, s)).2
  (rows.foldl read s).tally

/-! ## Both -/

/-- The rows of byte ranges of a set of characters. -/
def rowsOf (set : Ranges) : List (List ByteRange) :=
  set.flatMap fun (first, last) => (Utf8.blocks first last).map Utf8.byteRanges

/-- Adds the states that read a byte of a set. -/
def Tally.addByte (t : Tally) (set : Ranges) : Tally :=
  t.addState.addChoice set.length

/-- Adds the states that read a character of a set. -/
def Tally.addCharacter (t : Tally) (backward : Bool) (set : Ranges) : Tally :=
  if set.isAscii then t.addByte set
  else if backward then t.addCharacterBackward (rowsOf set)
  else t.addCharacterForward (rowsOf set)

end Downstream.Pattern
