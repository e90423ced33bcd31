import Downstream.Unicode.Ranges
import Downstream.Unicode.Fold

/-!
# Sets of characters

A set of characters is described by how it is put together, and `CharSet.has` evaluates the
description at one code point. Sets of bytes are described in the same way, by their values.
-/

namespace Downstream.Unicode

/-- A set of code points. -/
inductive CharSet where
  /-- The code points of some ranges. -/
  | ranges (rs : Ranges)
  /-- Those of either set. -/
  | union (a b : CharSet)
  /-- Those of both sets. -/
  | inter (a b : CharSet)
  /-- Those of the first set that are not in the second. -/
  | diff (a b : CharSet)
  /-- Those in exactly one of the sets. -/
  | symmDiff (a b : CharSet)
  /-- Those not in the set. -/
  | compl (a : CharSet)
  /-- Those that differ only in case from a member of the set. -/
  | folded (a : CharSet)
  /-- As `folded`, for the letters A to Z alone. -/
  | asciiFolded (a : CharSet)
  deriving Repr, DecidableEq

namespace CharSet

/-- The other case of an ASCII letter, and `c` itself. -/
def asciiVariants (c : Nat) : List Nat :=
  if 0x41 ≤ c ∧ c ≤ 0x5A then [c, c + 0x20]
  else if 0x61 ≤ c ∧ c ≤ 0x7A then [c, c - 0x20]
  else [c]

/-- Whether a code point is in the set. -/
def has : CharSet → Nat → Bool
  | ranges rs, c => rs.has c
  | union a b, c => a.has c || b.has c
  | inter a b, c => a.has c && b.has c
  | diff a b, c => a.has c && !b.has c
  | symmDiff a b, c => a.has c != b.has c
  | compl a, c => !a.has c
  | folded a, c => (Fold.variants c).any fun d => a.has d
  | asciiFolded a, c => (asciiVariants c).any fun d => a.has d

/-- The set without members. -/
def empty : CharSet :=
  ranges []

/-- The set of one code point. -/
def single (c : Nat) : CharSet :=
  ranges [(c, c)]

/-- The union of several sets. -/
def unions (sets : List CharSet) : CharSet :=
  match sets with
  | [] => empty
  | [a] => a
  | a :: rest => union a (unions rest)

@[simp] theorem has_ranges (rs : Ranges) (c : Nat) : (ranges rs).has c = rs.has c := rfl

@[simp] theorem has_union (a b : CharSet) (c : Nat) :
    (union a b).has c = (a.has c || b.has c) := rfl

@[simp] theorem has_compl (a : CharSet) (c : Nat) : (compl a).has c = !a.has c := rfl

end CharSet

end Downstream.Unicode
