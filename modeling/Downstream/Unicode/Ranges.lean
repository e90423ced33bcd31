/-!
# Sets of code points as ranges

A property of characters is stored as its ranges of code points, in ascending order. `Ranges.has`
decides membership and stops at the first range that starts above the code point. The operations on
sets keep the order and join ranges that touch, so that every set has one list of ranges.
-/

namespace Downstream.Unicode

/-- First and last code point of each range, ascending and disjoint. -/
abbrev Ranges := List (Nat × Nat)

namespace Ranges

/-- Whether a code point lies in one of the ranges. -/
def has : Ranges → Nat → Bool
  | [], _ => false
  | (first, last) :: rest, c =>
    if c < first then false
    else if c ≤ last then true
    else has rest c

/-- Ranges in ascending order, the first of which is `(first, last)`, with those joined that
touch. -/
def joinOnto (first last : Nat) : Ranges → Ranges
  | [] => [(first, last)]
  | (a, b) :: rest =>
    if a ≤ last + 1 then joinOnto first (max last b) rest
    else (first, last) :: joinOnto a b rest

/-- Ranges in ascending order of their starts, with those joined that touch. -/
def join : Ranges → Ranges
  | [] => []
  | (first, last) :: rest => joinOnto first last rest

/-- The code points of either set. -/
def union (a b : Ranges) : Ranges :=
  join (a.merge b fun x y => x.1 ≤ y.1)

/-- The code points from `least` to `greatest` that are in no range. -/
def gaps (least greatest : Nat) : Ranges → Ranges
  | [] => if least ≤ greatest then [(least, greatest)] else []
  | (first, last) :: rest =>
    if greatest < first then (if least ≤ greatest then [(least, greatest)] else [])
    else if least < first then (least, first - 1) :: gaps (last + 1) greatest rest
    else gaps (last + 1) greatest rest

/-- The code points up to `greatest` that are not in the set. -/
def compl (greatest : Nat) (a : Ranges) : Ranges :=
  gaps 0 greatest a

/-- The code points up to `greatest` that are in both sets. -/
def inter (greatest : Nat) (a b : Ranges) : Ranges :=
  compl greatest (union (compl greatest a) (compl greatest b))

/-- The code points up to `greatest` that are in the first set and not in the second. -/
def diff (greatest : Nat) (a b : Ranges) : Ranges :=
  inter greatest a (compl greatest b)

/-- The set of some code points. -/
def ofCodePoints (codePoints : List Nat) : Ranges :=
  join ((codePoints.mergeSort fun a b => a ≤ b).map fun c => (c, c))

/-- Whether a set has ASCII characters only. -/
def isAscii (a : Ranges) : Bool :=
  a.all fun r => r.2 ≤ 0x7F

/-- The number of code points in the set. -/
def size (a : Ranges) : Nat :=
  a.foldl (fun n (first, last) => n + (last + 1 - first)) 0

end Ranges

end Downstream.Unicode
