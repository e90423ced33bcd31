import Downstream.Number.Binary64

/-!
# The shortest decimal of a number

`Rank.shortest` is the decimal with the fewest digits that rounds to a size, and the one nearest to
the size among those; of two equally near, the greater. On the grid of decimals with `n` digits it
looks only at the neighbours of the size, as no other decimal of the grid is nearer. `Binary64.text`
writes the decimal with a point.
-/

namespace Downstream

namespace Rank

/-- How many decimal digits the whole part of a size has, counted negative from the point to the
first digit that is not zero. -/
def magnitude (r : Rank) : Int :=
  let lead : Int :=
    ((Decimal.digits r.units).length : Int) - ((Decimal.digits (twoTo 1074)).length : Int)
  if twoTo 1074 * tenTo lead.toNat ≤ r.units * tenTo (-lead).toNat then lead + 1 else lead

/-- The decimal of `n` digits that rounds to a size and is nearest to it, if there is any. -/
def onGrid? (r : Rank) (n : Nat) : Option Decimal :=
  let exponent := r.magnitude - n
  let numerator := r.units * tenTo (-exponent).toNat
  let denominator := twoTo 1074 * tenTo exponent.toNat
  let below : Decimal := ⟨numerator / denominator, exponent⟩
  let above : Decimal :=
    if below.coefficient + 1 = tenTo n then ⟨1, r.magnitude⟩ else ⟨below.coefficient + 1, exponent⟩
  match below.nearest? == some r, above.nearest? == some r with
  | true, true => if 2 * (numerator % denominator) < denominator then some below else some above
  | true, false => some below
  | false, true => some above
  | false, false => none

/-- The decimal that a size is. -/
def exact (r : Rank) : Decimal :=
  ⟨r.units * Nat.pow 5 1074, -1074⟩

/-- The shortest decimal that rounds to a size. Seventeen digits always suffice. -/
def shortest (r : Rank) : Decimal :=
  if r.val = 0 then ⟨0, 0⟩
  else ((List.range 17).findSome? fun n => r.onGrid? (n + 1)).getD r.exact

end Rank

namespace Binary64

/-- A number in digits, with a point and without an exponent. -/
def text : Binary64 → String
  | finite negative size =>
    (if negative then "-" else "") ++ String.ofList size.shortest.positional
  | infinite negative => if negative then "-inf" else "inf"
  | nan => "nan"

end Binary64

end Downstream
