import Downstream.Text.Utf8

/-!
# Characters as rows of byte ranges

The characters of a range are encoded by bytes that lie in ranges too, place by place, if the range
is a *block*: all its characters take the same number of bytes, and from the first place where their
bytes differ on, those run through all values. `blocks` cuts a range into as few blocks as can be,
and `byteRanges` gives the ranges of the bytes in a block.
-/

namespace Downstream.Utf8

/-- First and last value of a byte. -/
abbrev ByteRange := UInt8 × UInt8

/-- The last characters that take one, two and three bytes. -/
def lengthBounds : List Nat := [0x7F, 0x7FF, 0xFFFF]

/-- The numbers of characters that continuation bytes tell apart, from one such byte to three. -/
def strides : List Nat := [0x40, 0x1000, 0x40000]

/-- The last character of what has to be cut off from a range because its first character does not
start a stride, or else the last one before what has to be cut off because its last character does
not end one. -/
def strideCut? (first last stride : Nat) : Option Nat :=
  if first / stride = last / stride then none
  else if first % stride ≠ 0 then some ((first / stride + 1) * stride - 1)
  else if last % stride ≠ stride - 1 then some (last / stride * stride - 1)
  else none

/-- The last character of the first part of a range that is no block, `none` for a block. -/
def cut? (first last : Nat) : Option Nat :=
  match lengthBounds.find? fun c => first ≤ c && c < last with
  | some c => some c
  | none => if last ≤ 0x7F then none else strides.findSome? (strideCut? first last)

/-- The blocks of a range of characters, in ascending order. At most as many cuts are made as there
are characters. -/
def blocks (first last : Nat) : List (Nat × Nat) :=
  go (last + 1 - first) first last
where
  /-- Makes `fuel` cuts at most, one after the other. -/
  go : (fuel : Nat) → Nat → Nat → List (Nat × Nat)
    | 0, first, last => [(first, last)]
    | fuel + 1, first, last =>
      match cut? first last with
      | none => [(first, last)]
      | some c => go fuel first c ++ go fuel (c + 1) last

/-- The ranges of the bytes that encode a block. -/
def byteRanges (block : Nat × Nat) : List ByteRange :=
  (encode (Char.ofNat block.1)).zip (encode (Char.ofNat block.2))

end Downstream.Utf8
