import Downstream.Text.Utf8

/-!
# The order of texts

Texts are ordered by their characters, and this is the order of their bytes: of two characters, the
smaller one has the smaller byte where their encodings first differ (`encode_lt`), so a text comes
before another one if its bytes do (`ofString_lt`).
-/

namespace Downstream.Utf8

variable {m n : Nat} {u v : Bytes}

theorem cons_lt (h : m % 256 < n % 256 ∨ (m % 256 = n % 256 ∧ u < v)) :
    UInt8.ofNat m :: u < UInt8.ofNat n :: v := by
  rcases h with h | ⟨h, huv⟩
  · refine List.Lex.rel (UInt8.lt_iff_toNat_lt.2 ?_)
    rwa [UInt8.toNat_ofNat', UInt8.toNat_ofNat']
  · have heq : UInt8.ofNat m = UInt8.ofNat n := by
      rwa [← UInt8.toNat_inj, UInt8.toNat_ofNat', UInt8.toNat_ofNat']
    rw [heq]
    exact List.Lex.cons huv

/-! ## Encodings as digits -/

/-- `n` without its last `k` digits to the base 64. -/
def dropDigits : (k : Nat) → (n : Nat) → Nat
  | 0, n => n
  | k + 1, n => dropDigits k n / 64

/-- The last `k` digits of `n` to the base 64, as continuation bytes. -/
def lastDigits : (k : Nat) → (n : Nat) → Bytes
  | 0, _ => []
  | k + 1, n => .ofNat (dropDigits k n % 64 + 0x80) :: lastDigits k n

/-- The number of continuation bytes of a code point. -/
def extra (n : Nat) : Nat :=
  if n ≤ 0x7F then 0 else if n ≤ 0x7FF then 1 else if n ≤ 0xFFFF then 2 else 3

/-- What the first byte says about the number of continuation bytes. -/
def leadMark : (k : Nat) → Nat
  | 0 => 0
  | 1 => 0xC0
  | 2 => 0xE0
  | _ => 0xF0

/-- The first byte of a code point. -/
def lead (n : Nat) : Nat :=
  leadMark (extra n) + dropDigits (extra n) n

theorem toNat_lt (c : Char) : c.toNat < 0x110000 := by
  change c.val.toNat < 0x110000
  rcases c.valid with hv | hv <;> omega

theorem extra_cases (n : Nat) :
    extra n = 0 ∧ n ≤ 0x7F ∨ extra n = 1 ∧ 0x7F < n ∧ n ≤ 0x7FF ∨
      extra n = 2 ∧ 0x7FF < n ∧ n ≤ 0xFFFF ∨ extra n = 3 ∧ 0xFFFF < n := by
  unfold extra
  by_cases h1 : n ≤ 0x7F
  · exact Or.inl ⟨if_pos h1, h1⟩
  by_cases h2 : n ≤ 0x7FF
  · exact Or.inr (Or.inl ⟨by rw [if_neg h1, if_pos h2], by omega, h2⟩)
  by_cases h3 : n ≤ 0xFFFF
  · exact Or.inr (Or.inr (Or.inl ⟨by rw [if_neg h1, if_neg h2, if_pos h3], by omega, h3⟩))
  · exact Or.inr (Or.inr (Or.inr ⟨by rw [if_neg h1, if_neg h2, if_neg h3], by omega⟩))

theorem encode_eq (c : Char) :
    encode c = .ofNat (lead c.toNat) :: lastDigits (extra c.toNat) c.toNat := by
  have hc := toNat_lt c
  unfold encode String.utf8EncodeChar
  rw [show c.val.toNat = c.toNat from rfl]
  generalize c.toNat = n at hc
  rw [lead]
  obtain ⟨he, h⟩ | ⟨he, h, h'⟩ | ⟨he, h, h'⟩ | ⟨he, h⟩ := extra_cases n
  · simp [he, h, leadMark, lastDigits, dropDigits]
  · have hn : ¬n ≤ 0x7F := by omega
    have hmod : n / 64 % 32 = n / 64 := by omega
    simp [he, hn, h', hmod, leadMark, lastDigits, dropDigits, Nat.add_comm]
  · have hn : ¬n ≤ 0x7F ∧ ¬n ≤ 0x7FF := by omega
    have hmod : n / 4096 % 16 = n / 4096 := by omega
    simp [he, hn, h', hmod, leadMark, lastDigits, dropDigits, Nat.div_div_eq_div_mul, Nat.add_comm]
  · have hn : ¬n ≤ 0x7F ∧ ¬n ≤ 0x7FF ∧ ¬n ≤ 0xFFFF := by omega
    have hmod : n / 262144 % 8 = n / 262144 := by omega
    simp [he, hn, hmod, leadMark, lastDigits, dropDigits, Nat.div_div_eq_div_mul, Nat.add_comm]

theorem dropDigits_le (k : Nat) (h : m ≤ n) : dropDigits k m ≤ dropDigits k n := by
  induction k with
  | zero => exact h
  | succ k ih =>
    rw [dropDigits, dropDigits]
    exact Nat.div_le_div_right ih

theorem lastDigits_lt (k : Nat) (hlt : m < n) (hq : dropDigits k m = dropDigits k n)
    (u v : Bytes) : lastDigits k m ++ u < lastDigits k n ++ v := by
  induction k with
  | zero =>
    rw [dropDigits, dropDigits] at hq
    omega
  | succ k ih =>
    have hle := dropDigits_le k (Nat.le_of_lt hlt)
    rw [dropDigits, dropDigits] at hq
    rw [lastDigits, lastDigits, List.cons_append, List.cons_append]
    by_cases h : dropDigits k m = dropDigits k n
    · exact cons_lt (Or.inr ⟨by omega, ih h⟩)
    · exact cons_lt (Or.inl (by omega))

/-- Of two code points the smaller one has the smaller first byte, unless they have as many bytes
and agree in the first digit. -/
theorem lead_lt (hlt : m < n) (hn : n < 0x110000) :
    lead m % 256 < lead n % 256 ∨
      (extra m = extra n ∧ dropDigits (extra m) m = dropDigits (extra n) n) := by
  unfold lead
  rcases extra_cases m with ⟨hm, _⟩ | ⟨hm, _⟩ | ⟨hm, _⟩ | ⟨hm, _⟩ <;>
    rcases extra_cases n with ⟨hn', _⟩ | ⟨hn', _⟩ | ⟨hn', _⟩ | ⟨hn', _⟩ <;>
    simp only [hm, hn', leadMark, dropDigits, true_and] <;> omega

/-- **Encodings are ordered as the characters are**, at the first byte in which they differ. -/
theorem encode_lt {a b : Char} (h : a < b) (u v : Bytes) : encode a ++ u < encode b ++ v := by
  have hlt : a.toNat < b.toNat := h
  rw [encode_eq, encode_eq, List.cons_append, List.cons_append]
  rcases lead_lt hlt (toNat_lt b) with hlead | ⟨hextra, hq⟩
  · exact cons_lt (Or.inl hlead)
  · rw [hextra] at hq
    rw [lead, lead, hextra, hq]
    exact cons_lt (Or.inr ⟨rfl, lastDigits_lt _ hlt hq u v⟩)

theorem ofChars_lt {s t : List Char} (h : s < t) : ofChars s < ofChars t := by
  induction h with
  | nil =>
    rename_i c cs
    rw [ofChars, ofChars, List.flatMap_nil, List.flatMap_cons, encode_eq]
    exact List.nil_lt_cons _ _
  | rel h => exact encode_lt h _ _
  | cons h ih =>
    rw [ofChars, ofChars, List.flatMap_cons, List.flatMap_cons]
    exact List.append_left_lt ih

/-- **The order of texts is the order of their bytes.** -/
theorem ofString_lt {s t : String} (h : s < t) : ofString s < ofString t :=
  ofChars_lt (String.lt_iff.1 h)

end Downstream.Utf8
