import Downstream.Pattern.Automaton.Size

/-!
# Patterns of a bearable size

`Form.fits` tells whether the automata for a pattern are not too large. `Form.bound` is a rough
bound on their size that is found at a glance; only where it does not suffice are the states
counted.
-/

namespace Downstream.Pattern

open Unicode (CharSet)

namespace Form

/-- A bound on the bytes that a row of byte ranges takes. -/
def rowBytes : Nat := 168

/-- A bound on the number of blocks in a range of characters. -/
def rangeRows : Nat := 21

/-- A bound on the bytes that the ranges of a set take. -/
def rangesBound (set : Unicode.Ranges) : Nat :=
  set.foldl (fun n (first, last) => n + rowBytes * min rangeRows (last + 1 - first)) 0

/-- A bound on the number of characters in a set. -/
def membersBound : CharSet → Nat
  | .ranges rs => Unicode.Ranges.size rs
  | .union a b => membersBound a + membersBound b
  | .inter a b => min (membersBound a) (membersBound b)
  | .diff a _ => membersBound a
  | .symmDiff a b => membersBound a + membersBound b
  | .compl _ => 0x110000
  | .folded a => 4 * membersBound a
  | .asciiFolded a => 2 * membersBound a

/-- A bound on the number of ranges of a set. -/
def rangesIn : CharSet → Nat
  | .ranges rs => rs.length
  | .union a b => rangesIn a + rangesIn b
  | .inter a b => rangesIn a + rangesIn b
  | .diff a b => rangesIn a + rangesIn b
  | .symmDiff a b => rangesIn a + rangesIn b
  | .compl a => rangesIn a + 1
  | .folded a => rangesIn a + min 3000 (3 * membersBound a)
  | .asciiFolded a => rangesIn a + 52

/-- A bound on the bytes that a set takes. -/
def setBound : CharSet → Nat
  | .ranges rs => rangesBound rs
  | .union a b => setBound a + setBound b
  | .folded a => setBound a + rowBytes * min 3000 (3 * membersBound a)
  | .asciiFolded a => setBound a + rowBytes * 52
  | a => rowBytes * rangeRows * rangesIn a

mutual

/-- A bound on the bytes that the parts of a form take, in either automaton. -/
def bound : Form → Nat
  | empty => 32
  | text s => 80 * s.length + 40
  | scalar set => 100 + setBound set
  | octet set => 100 + setBound set
  | look _ => 32
  | group _ a => 100 + a.bound
  | times a least most _ => 200 + (80 + a.bound) * max 1 (most.getD least)
  | seq parts => 40 + boundSum parts
  | alt parts => 200 + boundSum parts

/-- The sum of the bounds for parts. -/
def boundSum : List Form → Nat
  | [] => 0
  | a :: rest => 40 + a.bound + boundSum rest

end

/-- Whether the automata for a form are not too large. -/
def fits (a : Form) : Bool :=
  a.bound + 400 ≤ Tally.limit || a.shape.fits

end Form

end Downstream.Pattern
