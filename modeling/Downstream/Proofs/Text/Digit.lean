import Downstream.Number.Power
import Downstream.Text.Digit

/-!
# Rows of digits

The number that a row of decimal digits denotes is the sum over its parts (`number_append`), and the
digits of a number denote it (`number_toDigits`), also after zeros (`number_paddedDigits`).
-/

namespace Downstream

theorem tenTo_succ (n : Nat) : tenTo (n + 1) = tenTo n * 10 := rfl

theorem tenTo_add (m n : Nat) : tenTo (m + n) = tenTo m * tenTo n := Nat.pow_add 10 m n

theorem tenTo_pos (n : Nat) : 0 < tenTo n := Nat.pow_pos (by decide)

/-! ## Digits -/

theorem char_le_iff {a b : Char} : a ≤ b ↔ a.toNat ≤ b.toNat := Iff.rfl

theorem digitValue?_ten {c : Char} (h : c.isDigit = true) :
    digitValue? 10 c = some (c.toNat - '0'.toNat) := by
  obtain ⟨hlow, hhigh⟩ := Char.isDigit_iff_toNat.1 h
  have hval : c.toNat - 0x30 < 10 := by
    have : '9'.toNat = 0x39 := rfl
    omega
  simp only [digitValue?, char_le_iff, and_self, hlow, hhigh, if_true, hval]
  rfl

theorem isDigit_ten (c : Char) : isDigit 10 c = c.isDigit := by
  cases h : c.isDigit with
  | true =>
    rw [isDigit, digitValue?_ten h]
    rfl
  | false =>
    have hdecimal : ¬('0' ≤ c ∧ c ≤ '9') := fun hrange => by
      rw [Char.isDigit_iff_toNat.2 hrange] at h
      cases h
    simp only [isDigit, digitValue?, if_neg hdecimal]
    by_cases hsmall : 'a' ≤ c ∧ c ≤ 'f'
    · have hge : ¬c.toNat - 0x57 < 10 := by
        have hle : 0x61 ≤ c.toNat := hsmall.1
        omega
      simp [if_pos hsmall, hge]
    · by_cases hcapital : 'A' ≤ c ∧ c ≤ 'F'
      · have hge : ¬c.toNat - 0x37 < 10 := by
          have hle : 0x41 ≤ c.toNat := hcapital.1
          omega
        simp [if_neg hsmall, if_pos hcapital, hge]
      · simp [if_neg hsmall, if_neg hcapital]

/-- A row of decimal digits. -/
def IsDigits (ds : List Char) : Prop :=
  ∀ c ∈ ds, c.isDigit = true

instance (ds : List Char) : Decidable (IsDigits ds) :=
  decidable_of_iff (ds.all Char.isDigit = true) List.all_eq_true

theorem IsDigits.append {a b : List Char} (ha : IsDigits a) (hb : IsDigits b) : IsDigits (a ++ b) :=
  fun c hc => (List.mem_append.1 hc).elim (ha c) (hb c)

theorem isDigits_replicate_zero (n : Nat) : IsDigits (List.replicate n '0') :=
  fun _ hc => (List.eq_of_mem_replicate hc) ▸ rfl

theorem isDigits_toDigits (n : Nat) : IsDigits (Nat.toDigits 10 n) :=
  fun _ => Nat.isDigit_of_mem_toDigits (by decide) (by decide)

theorem numberOn_eq_ofDigitChars {ds : List Char} (h : IsDigits ds) (n : Nat) :
    numberOn 10 n ds = Nat.ofDigitChars 10 ds n := by
  induction ds generalizing n with
  | nil => rfl
  | cons c ds ih =>
    obtain ⟨hc, hds⟩ := List.forall_mem_cons.1 h
    simp only [numberOn, digitValue?_ten hc, Nat.ofDigitChars_cons, ih hds, Nat.mul_comm]

theorem number_eq_ofDigitChars {ds : List Char} (h : IsDigits ds) :
    number 10 ds = Nat.ofDigitChars 10 ds 0 :=
  numberOn_eq_ofDigitChars h 0

theorem number_append {a b : List Char} (ha : IsDigits a) (hb : IsDigits b) :
    number 10 (a ++ b) = number 10 a * tenTo b.length + number 10 b := by
  rw [number_eq_ofDigitChars (ha.append hb), number_eq_ofDigitChars ha, number_eq_ofDigitChars hb,
    Nat.ofDigitChars_append, Nat.ofDigitChars_eq_ofDigitChars_zero, Nat.mul_comm]
  rfl

theorem number_replicate_zero (n : Nat) : number 10 (List.replicate n '0') = 0 := by
  rw [number_eq_ofDigitChars (isDigits_replicate_zero n), Nat.ofDigitChars_replicate_zero,
    Nat.mul_zero]

/-- **The digits of a number denote it.** -/
theorem number_toDigits (n : Nat) : number 10 (Nat.toDigits 10 n) = n := by
  rw [number_eq_ofDigitChars (isDigits_toDigits n), Nat.ofDigitChars_ten_toDigits]

/-! ## Numbers in digits -/

theorem length_toDigits_le {n k : Nat} (hk : 0 < k) :
    (Nat.toDigits 10 n).length ≤ k ↔ n < tenTo k :=
  Nat.length_toDigits_le_iff (by decide) hk

/-- The digits of a number are those below the base. -/
theorem exists_digitChar_of_mem_toDigits {b n : Nat} (hb : 1 < b) {c : Char}
    (h : c ∈ Nat.toDigits b n) : ∃ d < b, c = Nat.digitChar d := by
  induction n using Nat.strongRecOn with
  | ind n ih =>
    by_cases hlt : n < b
    · rw [Nat.toDigits_of_lt_base hlt, List.mem_singleton] at h
      exact ⟨n, hlt, h⟩
    · rw [Nat.toDigits_of_base_le hb (Nat.le_of_not_lt hlt), List.mem_append,
        List.mem_singleton] at h
      rcases h with h | h
      · exact ih (n / b) (Nat.div_lt_self (by omega) hb) h
      · exact ⟨n % b, Nat.mod_lt n (by omega), h⟩

/-- Only zero starts with a zero. -/
theorem exists_toDigits_eq_cons {b n : Nat} (hb : 1 < b) (hb' : b ≤ 10) (hn : n ≠ 0) :
    ∃ c ds, Nat.toDigits b n = c :: ds ∧ c ≠ '0' := by
  induction n using Nat.strongRecOn with
  | ind n ih =>
    by_cases hlt : n < b
    · have hall : ∀ n < 10, n ≠ 0 → Nat.digitChar n ≠ '0' := by decide
      exact ⟨Nat.digitChar n, [], Nat.toDigits_of_lt_base hlt, hall n (by omega) hn⟩
    · have hpos : 0 < n / b := Nat.div_pos (Nat.le_of_not_lt hlt) (by omega)
      obtain ⟨c, ds, hds, hc⟩ := ih (n / b) (Nat.div_lt_self (by omega) hb) (by omega)
      refine ⟨c, ds ++ [Nat.digitChar (n % b)], ?_, hc⟩
      rw [Nat.toDigits_of_base_le hb (by omega), hds]
      rfl

/-- A number times a power of ten has that many more digits. -/
theorem length_toDigits_mul_tenTo {n : Nat} (hn : n ≠ 0) (k : Nat) :
    (Nat.toDigits 10 (n * tenTo k)).length = (Nat.toDigits 10 n).length + k := by
  induction k with
  | zero => simp [tenTo]
  | succ k ih =>
    have hpos : 0 < n * tenTo k := Nat.mul_pos (Nat.pos_of_ne_zero hn) (tenTo_pos k)
    have hsplit : n * tenTo (k + 1) = n * tenTo k * 10 := by rw [tenTo_succ, Nat.mul_assoc]
    rw [hsplit, Nat.toDigits_of_base_le (by decide) (by omega), Nat.mul_div_cancel _ (by decide),
      List.length_append, ih]
    rfl

theorem isDigits_paddedDigits (width n : Nat) : IsDigits (paddedDigits width n) :=
  (isDigits_replicate_zero _).append (isDigits_toDigits n)

theorem number_paddedDigits (width n : Nat) : number 10 (paddedDigits width n) = n := by
  rw [paddedDigits, number_append (isDigits_replicate_zero _) (isDigits_toDigits n),
    number_replicate_zero, number_toDigits, Nat.zero_mul, Nat.zero_add]

theorem length_paddedDigits {width n : Nat} (hwidth : 0 < width) (h : n < tenTo width) :
    (paddedDigits width n).length = width := by
  have hle := (length_toDigits_le hwidth).2 h
  rw [paddedDigits, List.length_append, List.length_replicate]
  omega

end Downstream
