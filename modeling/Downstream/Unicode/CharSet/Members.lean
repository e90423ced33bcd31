import Downstream.Unicode.CharSet

/-!
# The members of a set

A set of characters is described by how it is put together. `CharSet.members` works the description
out to ranges, `CharSet.scalars` to those of characters alone.
-/

namespace Downstream.Unicode

namespace Fold

/-- The characters that have variants. -/
def varied : List Nat :=
  runs.flatMap fun r =>
    (List.range ((r.last - r.first) / r.step + 1)).flatMap fun k =>
      [r.first + k * r.step, r.target + k * r.step]

end Fold

namespace CharSet

/-- The code points up to `greatest` that are in the set. -/
def members (greatest : Nat) : CharSet → Ranges
  | ranges rs => rs.join
  | union a b => (a.members greatest).union (b.members greatest)
  | inter a b => Ranges.inter greatest (a.members greatest) (b.members greatest)
  | diff a b => Ranges.diff greatest (a.members greatest) (b.members greatest)
  | symmDiff a b =>
    let a := a.members greatest
    let b := b.members greatest
    Ranges.diff greatest (a.union b) (Ranges.inter greatest a b)
  | compl a => Ranges.compl greatest (a.members greatest)
  | folded a =>
    let a := a.members greatest
    let isVariant (c : Nat) : Bool := (Fold.variants c).any fun d => a.has d
    a.union (.ofCodePoints (Fold.varied.filter isVariant))
  | asciiFolded a =>
    let a := a.members greatest
    let isVariant (c : Nat) : Bool := (asciiVariants c).any fun d => a.has d
    a.union (.ofCodePoints ((List.range 0x80).filter isVariant))

/-- The characters in the set. -/
def scalars (s : CharSet) : Ranges :=
  Ranges.diff 0x10FFFF (s.members 0x10FFFF) [(0xD800, 0xDFFF)]

/-- The bytes in the set. -/
def octets (s : CharSet) : Ranges :=
  s.members 0xFF

end CharSet

end Downstream.Unicode
