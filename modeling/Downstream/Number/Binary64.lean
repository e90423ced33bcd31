import Downstream.Number.Power

/-!
# Double-precision numbers

The finite numbers of a sign are counted by their size: the number of rank `r` is the `r`-th size in
ascending order, zero being the first. `Rank.units` is the size in units of `2 ^ -1074`, the
smallest size above zero. `nearest?` rounds a quotient of natural numbers to the nearest size, to
the even rank of two that are equally near, and `ofDecimal?` does so with a decimal.
-/

namespace Downstream

/-- The place of a size among the sizes of finite numbers in ascending order. -/
abbrev Rank := Fin (2047 * twoTo 52)

/-- A double-precision binary number. -/
inductive Binary64 where
  | finite (negative : Bool) (size : Rank)
  | infinite (negative : Bool)
  | nan
  deriving Repr, DecidableEq

/-- The number `coefficient · 10 ^ exponent`. -/
structure Decimal where
  coefficient : Nat
  exponent : Int
  deriving Repr, DecidableEq

namespace Rank

/-- The sizes of one binary exponent share a factor of a power of two; what is left of the size is
its significand. -/
def significand (r : Rank) : Nat :=
  if r.val < twoTo 52 then r.val else twoTo 52 + r.val % twoTo 52

/-- The exponent of the power of two, in units of `2 ^ -1074`. -/
def shift (r : Rank) : Nat :=
  r.val / twoTo 52 - 1

/-- The size in units of `2 ^ -1074`. -/
def units (r : Rank) : Nat :=
  r.significand * twoTo r.shift

end Rank

/-- The whole number nearest to `n / d`, the even one of two. -/
def nearestWhole (n d : Nat) : Nat :=
  let q := n / d
  let rest := n % d
  if 2 * rest < d ∨ (2 * rest = d ∧ q % 2 = 0) then q else q + 1

/-- The size nearest to `n / d`, that of the even rank of two; `none` if it is not finite. -/
def nearest? (n d : Nat) : Option Rank :=
  let whole := n * twoTo 1074 / d
  let shift := whole.log2 + 1 - 53
  let rank := shift * twoTo 52 + nearestWhole (n * twoTo 1074) (d * twoTo shift)
  if h : rank < 2047 * twoTo 52 then some ⟨rank, h⟩ else none

namespace Decimal

/-- The digits of a natural number. -/
def digits (n : Nat) : List Char :=
  Nat.toDigits 10 n

/-- How many digits stand before the point, counted negative from the point to the first digit that
is not zero. -/
def magnitude (d : Decimal) : Int :=
  (digits d.coefficient).length + d.exponent

/-- The size nearest to a decimal; `none` if it is not finite. Decimals far outside of the range of
sizes are told by their magnitude. -/
def nearest? (d : Decimal) : Option Rank :=
  if d.coefficient = 0 ∨ d.magnitude < -400 then some ⟨0, by decide⟩
  else if 400 < d.magnitude then none
  else Downstream.nearest? (d.coefficient * tenTo d.exponent.toNat) (tenTo (-d.exponent).toNat)

/-- The digits of a decimal with a point among them, at least one on each side. -/
def positional (d : Decimal) : List Char :=
  let ds := digits d.coefficient
  if 0 ≤ d.exponent then
    ds ++ List.replicate d.exponent.toNat '0' ++ ['.', '0']
  else
    let places := (-d.exponent).toNat
    let padded := List.replicate (places + 1 - ds.length) '0' ++ ds
    let whole := padded.length - places
    padded.take whole ++ '.' :: padded.drop whole

end Decimal

namespace Binary64

/-- The number nearest to a decimal of a sign; `none` if it is not finite. -/
def ofDecimal? (negative : Bool) (d : Decimal) : Option Binary64 :=
  d.nearest?.map (finite negative)

/-- The numbers have equal values: the two zeros are equal, and nothing equals what is no number. -/
def same : Binary64 → Binary64 → Bool
  | finite a r, finite b s => r == s && (a == b || r.val == 0)
  | infinite a, infinite b => a == b
  | _, _ => false

/-- The sign, the exponent and the significand as a binary word. -/
def word : Binary64 → Nat
  | finite negative size => (if negative then twoTo 63 else 0) + size.val
  | infinite negative => (if negative then twoTo 63 else 0) + 2047 * twoTo 52
  | nan => 2047 * twoTo 52 + twoTo 51

end Binary64

end Downstream
