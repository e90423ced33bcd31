import Downstream.Number.Shortest
import Downstream.Proofs.Text.Digit

/-!
# Decimals round back

The shortest decimal of a size rounds to this size (`nearest?_shortest`). A decimal that is found on
a grid was checked to do so, and the one that a size is does, since rounding depends on the quotient
only (`nearest?_of_ratio`) and a size is nearest to itself (`nearest?_units`).
-/

namespace Downstream

theorem twoTo_pos (n : Nat) : 0 < twoTo n := Nat.pow_pos (by decide)

theorem twoTo_le {m n : Nat} (h : m ≤ n) : twoTo m ≤ twoTo n := Nat.pow_le_pow_right (by decide) h

theorem twoTo_add (m n : Nat) : twoTo (m + n) = twoTo m * twoTo n := Nat.pow_add 2 m n

/-! ## Quotients -/

theorem nearestWhole_mul (n d : Nat) {m : Nat} (hm : 0 < m) :
    nearestWhole (n * m) (d * m) = nearestWhole n d := by
  have hlt : 2 * (n % d * m) < d * m ↔ 2 * (n % d) < d := by
    rw [← Nat.mul_assoc, Nat.mul_lt_mul_right hm]
  have heq : 2 * (n % d * m) = d * m ↔ 2 * (n % d) = d := by
    rw [← Nat.mul_assoc, Nat.mul_right_cancel_iff hm]
  simp only [nearestWhole, Nat.mul_div_mul_right _ _ hm, Nat.mul_mod_mul_right, hlt, heq]

/-- A whole number is nearest to itself. -/
theorem nearestWhole_mul_self (n : Nat) {d : Nat} (hd : 0 < d) : nearestWhole (n * d) d = n := by
  simp [nearestWhole, Nat.mul_div_cancel _ hd, hd]

theorem nearest?_mul (n d : Nat) {m : Nat} (hm : 0 < m) : nearest? (n * m) (d * m) = nearest? n d := by
  have hwhole : n * m * twoTo 1074 / (d * m) = n * twoTo 1074 / d := by
    rw [Nat.mul_right_comm, Nat.mul_div_mul_right _ _ hm]
  have hround : ∀ shift, nearestWhole (n * m * twoTo 1074) (d * m * twoTo shift) =
      nearestWhole (n * twoTo 1074) (d * twoTo shift) := fun shift => by
    rw [Nat.mul_right_comm n, Nat.mul_right_comm d, nearestWhole_mul _ _ hm]
  simp only [nearest?, hwhole, hround]

/-- Rounding depends on the quotient only. -/
theorem nearest?_of_ratio {n d n' d' : Nat} (hd : 0 < d) (hd' : 0 < d') (h : n * d' = n' * d) :
    nearest? n d = nearest? n' d' := by
  rw [← nearest?_mul n d hd', h, Nat.mul_comm d, nearest?_mul n' d' hd]

namespace Decimal

/-- Zeros at the end of the coefficient make up for a smaller exponent. -/
theorem nearest?_mul_tenTo (c k : Nat) (e : Int) :
    nearest? ⟨c * tenTo k, e - k⟩ = nearest? ⟨c, e⟩ := by
  by_cases hc : c = 0
  · simp [nearest?, hc]
  have hmul : c * tenTo k ≠ 0 := Nat.mul_ne_zero hc (Nat.pos_iff_ne_zero.1 (tenTo_pos k))
  have hmagnitude : magnitude ⟨c * tenTo k, e - k⟩ = magnitude ⟨c, e⟩ := by
    simp only [magnitude, digits, length_toDigits_mul_tenTo hc]
    omega
  have hround : Downstream.nearest? (c * tenTo k * tenTo (e - k).toNat) (tenTo (-(e - k)).toNat) =
      Downstream.nearest? (c * tenTo e.toNat) (tenTo (-e).toNat) := by
    refine nearest?_of_ratio (tenTo_pos _) (tenTo_pos _) ?_
    have hexponents : k + (e - k).toNat + (-e).toNat = e.toNat + (-(e - k)).toNat := by omega
    have hpowers : tenTo k * tenTo (e - k).toNat * tenTo (-e).toNat =
        tenTo e.toNat * tenTo (-(e - k)).toNat := by
      rw [← tenTo_add, ← tenTo_add, ← tenTo_add, hexponents]
    rw [Nat.mul_assoc c, Nat.mul_assoc c, hpowers, Nat.mul_assoc c]
  simp only [nearest?, hmul, hc, hmagnitude, hround]

end Decimal

/-! ## Sizes -/

namespace Rank

theorem units_eq_of_lt {r : Rank} (h : r.val < twoTo 52) : r.units = r.val ∧ r.shift = 0 := by
  have hshift : r.shift = 0 := by simp [shift, Nat.div_eq_of_lt h]
  refine ⟨?_, hshift⟩
  rw [units, significand, if_pos h, hshift]
  exact Nat.mul_one _

theorem significand_lt (r : Rank) : r.significand < twoTo 53 := by
  have hmod : r.val % twoTo 52 < twoTo 52 := Nat.mod_lt _ (twoTo_pos 52)
  have hdouble : twoTo 53 = twoTo 52 + twoTo 52 := by decide
  rw [significand]
  split <;> omega

/-- The shift of a size is told by its binary digits. -/
theorem log2_units (r : Rank) : r.units.log2 + 1 - 53 = r.shift := by
  by_cases h : r.val < twoTo 52
  · obtain ⟨hunits, hshift⟩ := units_eq_of_lt h
    rw [hunits, hshift]
    by_cases hzero : r.val = 0
    · simp [hzero]
    · have hlog : r.val.log2 < 52 := (Nat.log2_lt hzero).2 h
      omega
  · have hlow : twoTo 52 ≤ r.significand := by
      rw [significand, if_neg h]
      exact Nat.le_add_right _ _
    have hlog : r.units.log2 = 52 + r.shift := by
      refine (Nat.log2_eq_iff ?_).2 ⟨?_, ?_⟩
      · exact Nat.mul_ne_zero (Nat.pos_iff_ne_zero.1 (Nat.lt_of_lt_of_le (twoTo_pos 52) hlow))
          (Nat.pos_iff_ne_zero.1 (twoTo_pos _))
      · calc twoTo (52 + r.shift) = twoTo 52 * twoTo r.shift := twoTo_add ..
          _ ≤ r.units := Nat.mul_le_mul_right _ hlow
      · calc r.units < twoTo 53 * twoTo r.shift :=
            Nat.mul_lt_mul_of_pos_right r.significand_lt (twoTo_pos _)
          _ = twoTo (52 + r.shift + 1) := by rw [← twoTo_add]; congr 1; omega
    omega

theorem shift_add_significand (r : Rank) : r.shift * twoTo 52 + r.significand = r.val := by
  by_cases h : r.val < twoTo 52
  · rw [(units_eq_of_lt h).2, significand, if_pos h, Nat.zero_mul, Nat.zero_add]
  · have hdiv : 1 ≤ r.val / twoTo 52 :=
      (Nat.le_div_iff_mul_le (twoTo_pos 52)).2 (by omega)
    have hsplit := Nat.div_add_mod r.val (twoTo 52)
    have hone : (r.val / twoTo 52 - 1) * twoTo 52 + twoTo 52 = twoTo 52 * (r.val / twoTo 52) := by
      rw [← Nat.succ_mul, Nat.mul_comm]
      congr 1
      omega
    rw [significand, if_neg h, shift]
    omega

/-- **A size is nearest to itself.** -/
theorem nearest?_units (r : Rank) : Downstream.nearest? r.units (twoTo 1074) = some r := by
  have hround : nearestWhole (r.units * twoTo 1074) (twoTo 1074 * twoTo r.shift) =
      r.significand := by
    have hsplit : r.units * twoTo 1074 = r.significand * (twoTo 1074 * twoTo r.shift) := by
      rw [units, Nat.mul_assoc, Nat.mul_comm (twoTo r.shift)]
    rw [hsplit, nearestWhole_mul_self _ (Nat.mul_pos (twoTo_pos _) (twoTo_pos _))]
  simp only [Downstream.nearest?, Nat.mul_div_cancel _ (twoTo_pos 1074), log2_units, hround,
    shift_add_significand, r.isLt, dif_pos]

/-! ## Decimals of a size -/

theorem units_lt (r : Rank) : r.units < twoTo 2098 := by
  have hshift : r.shift ≤ 2045 := by
    have hlt : r.val < twoTo 52 * 2047 := Nat.lt_of_lt_of_eq r.isLt (Nat.mul_comm 2047 _)
    have hdiv : r.val / twoTo 52 < 2047 := Nat.div_lt_of_lt_mul hlt
    rw [shift]
    omega
  calc r.units < twoTo 53 * twoTo r.shift :=
        Nat.mul_lt_mul_of_pos_right r.significand_lt (twoTo_pos _)
    _ = twoTo (53 + r.shift) := (twoTo_add ..).symm
    _ ≤ twoTo 2098 := twoTo_le (by omega)

theorem units_pos {r : Rank} (h : r.val ≠ 0) : 0 < r.units := by
  refine Nat.mul_pos ?_ (twoTo_pos _)
  have hpos := twoTo_pos 52
  rw [significand]
  split <;> omega

/-- The decimal that a quotient by a power of two is rounds as the quotient. -/
theorem nearest?_mul_fiveTo (n k : Nat) (hlow : -400 ≤ Decimal.magnitude ⟨n * Nat.pow 5 k, -k⟩)
    (hhigh : Decimal.magnitude ⟨n * Nat.pow 5 k, -k⟩ ≤ 400) (hpos : n * Nat.pow 5 k ≠ 0) :
    Decimal.nearest? ⟨n * Nat.pow 5 k, -k⟩ = Downstream.nearest? n (twoTo k) := by
  have hratio : Downstream.nearest? (n * Nat.pow 5 k * tenTo 0) (tenTo k) =
      Downstream.nearest? n (twoTo k) := by
    refine nearest?_of_ratio (tenTo_pos _) (twoTo_pos _) ?_
    have hten : Nat.pow 5 k * twoTo k = tenTo k := (Nat.mul_pow 5 2 k).symm
    rw [show tenTo 0 = 1 from rfl, Nat.mul_one, Nat.mul_assoc, hten]
  have hnotLow : ¬(n * Nat.pow 5 k = 0 ∨ Decimal.magnitude ⟨n * Nat.pow 5 k, -k⟩ < -400) := by
    simp only [hpos, false_or]
    omega
  have hnone : (-(k : Int)).toNat = 0 := by omega
  have hall : (- -(k : Int)).toNat = k := by omega
  rw [Decimal.nearest?, if_neg hnotLow, if_neg (Int.not_lt.2 hhigh), ← hratio]
  simp only [hnone, hall]

theorem fiveTo_pos (k : Nat) : 0 < Nat.pow 5 k := Nat.pow_pos (by decide)

theorem nearest?_exact {r : Rank} (h : r.val ≠ 0) : r.exact.nearest? = some r := by
  -- The exponent is a variable, so that nothing computes the power.
  obtain ⟨k, hk⟩ : ∃ k, k = 1074 := ⟨_, rfl⟩
  have hexponent : (-1074 : Int) = -k := by omega
  have hexact : r.exact = ⟨r.units * Nat.pow 5 k, -k⟩ := by rw [exact, ← hk, hexponent]
  have hpos : 0 < r.units * Nat.pow 5 k := Nat.mul_pos (units_pos h) (fiveTo_pos k)
  have hmany : ¬(Decimal.digits (r.units * Nat.pow 5 k)).length ≤ 673 := by
    have hbound : tenTo 673 ≤ Nat.pow 5 k := by
      rw [hk]
      decide +kernel
    rw [Decimal.digits, length_toDigits_le (by decide), Nat.not_lt]
    exact Nat.le_trans hbound (Nat.le_mul_of_pos_left _ (units_pos h))
  have hfew : (Decimal.digits (r.units * Nat.pow 5 k)).length ≤ 1474 := by
    have hbound : twoTo 2098 * Nat.pow 5 k < tenTo 1474 := by
      rw [hk]
      decide +kernel
    rw [Decimal.digits, length_toDigits_le (by decide)]
    exact Nat.lt_trans (Nat.mul_lt_mul_of_pos_right r.units_lt (fiveTo_pos k)) hbound
  have hunits : Downstream.nearest? r.units (twoTo k) = some r := by
    rw [hk]
    exact nearest?_units r
  rw [hexact, nearest?_mul_fiveTo _ _ _ _ (Nat.ne_of_gt hpos), hunits] <;>
    simp only [Decimal.magnitude] <;> omega

theorem nearest?_of_onGrid? {r : Rank} {n : Nat} {d : Decimal} (h : r.onGrid? n = some d) :
    d.nearest? = some r := by
  simp only [onGrid?] at h
  split at h
  next hbelow habove =>
    split at h <;> cases h
    · exact eq_of_beq hbelow
    · exact eq_of_beq habove
  next hbelow _ =>
    cases h
    exact eq_of_beq hbelow
  next _ habove =>
    cases h
    exact eq_of_beq habove
  · cases h

/-- **The shortest decimal of a size rounds to it.** -/
theorem nearest?_shortest (r : Rank) : r.shortest.nearest? = some r := by
  rw [shortest]
  by_cases h : r.val = 0
  · rw [if_pos h, Decimal.nearest?, if_pos (.inl rfl)]
    exact congrArg some (Fin.ext h.symm)
  · rw [if_neg h]
    cases hgrid : (List.range 17).findSome? fun n => r.onGrid? (n + 1) with
    | none => exact nearest?_exact h
    | some d =>
      obtain ⟨n, -, hn⟩ := List.exists_of_findSome?_eq_some hgrid
      exact nearest?_of_onGrid? hn

/-- Only the size zero has a shortest decimal of zero. -/
theorem shortest_of_coefficient_eq_zero {r : Rank} (h : r.shortest.coefficient = 0) :
    r.shortest = ⟨0, 0⟩ := by
  have hnearest := r.nearest?_shortest
  rw [Decimal.nearest?, if_pos (.inl h)] at hnearest
  have hzero : r.val = 0 := congrArg Fin.val (Option.some.inj hnearest).symm
  rw [shortest, if_pos hzero]

end Rank

end Downstream
