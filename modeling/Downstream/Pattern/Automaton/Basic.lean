import Downstream.Number.Power

/-!
# States of an automaton

The size of a pattern is that of an automaton for it, which reads bytes. No automaton is put
together here: a `Tally` counts its states, which are numbered in the order in which they are made,
and the bytes that they take. A state takes `stateBytes`, and more if it has several ways to go on.
-/

namespace Downstream.Pattern

/-- The states of an automaton so far. -/
structure Tally where
  /-- Their number, which is also that of the next state. -/
  states : Nat := 0
  /-- The bytes that they take. -/
  bytes : Nat := 0
  deriving Repr, DecidableEq

namespace Tally

/-- The bytes of a state. -/
def stateBytes : Nat := 32

/-- The bytes of a step over a byte range, where a state has several of them. -/
def stepBytes : Nat := 8

/-- The bytes of a way to go on without a byte, where a state has several of them. -/
def branchBytes : Nat := 4

/-- How many bytes an automaton may take. -/
def limit : Nat := 10 * twoTo 20

/-- Whether the automaton is not too large yet. -/
def fits (t : Tally) : Bool :=
  t.bytes ≤ limit

/-- Adds states with one way to go on each. -/
def addStates (t : Tally) (n : Nat) : Tally :=
  ⟨t.states + n, t.bytes + n * stateBytes⟩

/-- Adds a state with one way to go on. -/
def addState (t : Tally) : Tally :=
  t.addStates 1

/-- Adds a state with this number of steps to go on. -/
def addChoice (t : Tally) (steps : Nat) : Tally :=
  ⟨t.states + 1, t.bytes + stateBytes + steps * stepBytes⟩

/-- Adds a state with this number of branches. -/
def addFork (t : Tally) (branches : Nat) : Tally :=
  ⟨t.states + 1, t.bytes + stateBytes + branches * branchBytes⟩

/-- Adds branches to a state that has some. -/
def addBranches (t : Tally) (n : Nat) : Tally :=
  { t with bytes := t.bytes + n * branchBytes }

end Tally

end Downstream.Pattern
