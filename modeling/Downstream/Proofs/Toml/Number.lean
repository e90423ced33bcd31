import Downstream.Proofs.Number.Shortest
import Downstream.Proofs.Text.Front
import Downstream.Toml.Number
import Downstream.Toml.Writer

/-!
# Numbers are read as they were written

A whole number is read as it was written (`Number.integer?_writtenInteger`). Another number is
written with a point, as a decimal that rounds to it (`Binary64.numeral`), and this decimal is read
(`Number.float?_text`).
-/

namespace Downstream.Toml

variable {ds rest : List Char}

namespace Number

theorem ne_underscore_of_isDigit {c : Char} (h : c.isDigit = true) : c ≠ '_' := by
  rintro rfl
  cases h

theorem plainDigits?_of_isDigits (h : IsDigits ds) (hne : ds ≠ []) : plainDigits? 10 ds = some ds := by
  induction ds with
  | nil => exact absurd rfl hne
  | cons c ds ih =>
    obtain ⟨hc, hds⟩ := List.forall_mem_cons.1 h
    have hdigit : isDigit 10 c = true := by rw [isDigit_ten, hc]
    cases ds with
    | nil => simp [plainDigits?, hdigit]
    | cons d ds =>
      have hd := ne_underscore_of_isDigit (hds d List.mem_cons_self)
      have hrest := ih hds (List.cons_ne_nil d ds)
      rw [plainDigits?, if_pos hdigit, hrest]
      · rfl
      · exact nofun
      · rintro _ ⟨⟩
        exact hd rfl

/-- A row of digits without needless zeros in front. -/
structure IsWhole (ds : List Char) : Prop where
  digits : IsDigits ds
  whole : wholeDigits? ds = some ds
  ne_nil : ds ≠ []

theorem isWhole_of_head {c : Char} (h : IsDigits (c :: ds)) (hc : c ≠ '0') : IsWhole (c :: ds) where
  digits := h
  whole := by
    rw [wholeDigits?, plainDigits?_of_isDigits h (List.cons_ne_nil c ds)]
    split
    next heq =>
      simp only [Option.some.injEq, List.cons.injEq] at heq
      exact absurd heq.1 hc
    next => rfl
  ne_nil := List.cons_ne_nil c ds

theorem isWhole_zero : IsWhole ['0'] := ⟨by decide, rfl, List.cons_ne_nil _ _⟩

theorem isWhole_toDigits (n : Nat) : IsWhole (Nat.toDigits 10 n) := by
  by_cases hn : n = 0
  · subst hn
    exact isWhole_zero
  · obtain ⟨c, ds, hds, hc⟩ := exists_toDigits_eq_cons (b := 10) (by decide) (by decide) hn
    have hdigits := isDigits_toDigits n
    rw [hds] at hdigits ⊢
    exact isWhole_of_head hdigits hc

/-- The characters of a sign. -/
def signText (negative : Bool) : List Char :=
  if negative then ['-'] else []

theorem sign_signText (negative : Bool) (h : IsDigits ds) (hne : ds ≠ []) (rest : List Char) :
    sign (signText negative ++ (ds ++ rest)) = (negative, ds ++ rest) := by
  cases negative with
  | true => rfl
  | false =>
    obtain ⟨c, ds, rfl⟩ := List.exists_cons_of_ne_nil hne
    have hc := h c List.mem_cons_self
    simp only [signText, Bool.false_eq_true, if_false, List.nil_append, List.cons_append]
    rw [sign]
    · rintro _ ⟨⟩
      cases hc
    · rintro _ ⟨⟩
      cases hc

theorem signedDigits?_signText (negative : Bool) (h : IsDigits ds) (hne : ds ≠ [])
    (rest : List Char) :
    signedDigits? (signText negative ++ (ds ++ rest)) =
      (wholeDigits? (ds ++ rest)).map (negative, ·) := by
  have hsign := sign_signText negative h hne rest
  obtain ⟨c, cs, rfl⟩ := List.exists_cons_of_ne_nil hne
  have hc : c ≠ '_' := ne_underscore_of_isDigit (h c List.mem_cons_self)
  simp only [signedDigits?, hsign]
  split
  next heq =>
    simp only [List.cons_append, Prod.mk.injEq, List.cons.injEq] at heq
    exact absurd heq.2.1 hc
  next heq =>
    simp only [Prod.mk.injEq] at heq
    rw [← heq.1, ← heq.2]

theorem signedDigits?_of_isWhole (negative : Bool) (h : IsWhole ds) :
    signedDigits? (signText negative ++ ds) = some (negative, ds) := by
  have hsigned := signedDigits?_signText negative h.digits h.ne_nil []
  rwa [List.append_nil, h.whole] at hsigned

/-- A word that is not one of another radix is read as a decimal number with a sign. -/
theorem integer?_eq_signed {s : List Char}
    (h : ∀ c more, s = '0' :: c :: more → c.isDigit = true ∨ c = '.') :
    integer? s = (signedDigits? s).map fun (negative, ds) =>
      if negative then -(number 10 ds : Int) else number 10 ds := by
  have hletter : ∀ c, c.isDigit = false → c ≠ '.' → ∀ more, s ≠ '0' :: c :: more :=
    fun c hdigit hpoint more heq =>
      (h c more heq).elim (fun hc => by rw [hdigit] at hc; cases hc) hpoint
  unfold integer?
  split
  · exact absurd rfl (hletter 'x' (by decide) (by decide) _)
  · exact absurd rfl (hletter 'o' (by decide) (by decide) _)
  · exact absurd rfl (hletter 'b' (by decide) (by decide) _)
  · rfl

theorem isDigit_of_signText_eq_cons {negative : Bool} (h : IsDigits ds) (hne : ds ≠ [])
    (hrest : StartsOutside (· != '.') rest) {c : Char} {more : List Char}
    (heq : signText negative ++ (ds ++ rest) = '0' :: c :: more) : c.isDigit = true ∨ c = '.' := by
  cases negative with
  | true => simp [signText] at heq
  | false =>
    simp only [signText, Bool.false_eq_true, if_false, List.nil_append] at heq
    match ds, h, hne with
    | [d], _, _ =>
      simp only [List.cons_append, List.nil_append, List.cons.injEq] at heq
      exact .inr (by simpa [heq.2] using hrest c)
    | _ :: d :: ds, hdigits, _ =>
      simp only [List.cons_append, List.cons.injEq] at heq
      exact .inl (heq.2.1 ▸ hdigits d (by simp))

theorem integer?_signText (negative : Bool) (h : IsWhole ds) :
    integer? (signText negative ++ ds) =
      some (if negative then -(number 10 ds : Int) else number 10 ds) := by
  have hsecond : ∀ c more, signText negative ++ ds = '0' :: c :: more → c.isDigit = true ∨ c = '.' :=
    fun c more heq => isDigit_of_signText_eq_cons h.digits h.ne_nil (startsOutside_nil _)
      (by rwa [List.append_nil])
  rw [integer?_eq_signed hsecond, signedDigits?_of_isWhole negative h]
  rfl

theorem writtenInteger_eq (n : Int) :
    writtenInteger n = signText (decide (n < 0)) ++ Nat.toDigits 10 n.natAbs := by
  by_cases h : n < 0 <;> simp [writtenInteger, signText, h]

/-- **A whole number is read as it was written.** -/
theorem integer?_writtenInteger (n : Int) : integer? (writtenInteger n) = some n := by
  rw [writtenInteger_eq, integer?_signText _ (isWhole_toDigits _), number_toDigits]
  congr 1
  by_cases h : n < 0
  · rw [if_pos (decide_eq_true h)]
    omega
  · rw [if_neg (by rw [decide_eq_true_eq]; exact h)]
    omega

/-! ## Numbers with a point -/

/-- A row with a point in it is no row of digits. -/
theorem plainDigits?_eq_none {s : List Char} (h : '.' ∈ s) : plainDigits? 10 s = none := by
  have hpoint : isDigit 10 '.' = false := by decide
  fun_induction plainDigits? 10 s <;> simp_all <;> grind

theorem integer?_eq_none_of_point (negative : Bool) {whole : List Char} (h : IsWhole whole)
    (fraction : List Char) : integer? (signText negative ++ (whole ++ '.' :: fraction)) = none := by
  have hnone : wholeDigits? (whole ++ '.' :: fraction) = none := by
    rw [wholeDigits?, plainDigits?_eq_none (by simp)]
  have hrest : StartsOutside (· != '.') ('.' :: fraction) := by
    rintro _ ⟨⟩
    rfl
  rw [integer?_eq_signed fun _ _ => isDigit_of_signText_eq_cons h.digits h.ne_nil hrest,
    signedDigits?_signText negative h.digits h.ne_nil, hnone]
  rfl

theorem not_isExponentMark_of_isDigit {c : Char} (h : c.isDigit = true) : isExponentMark c = false := by
  refine Bool.eq_false_iff.2 fun hmark => ?_
  rw [isExponentMark, Bool.or_eq_true, decide_eq_true_eq, decide_eq_true_eq] at hmark
  rcases hmark with rfl | rfl <;> cases h

theorem fraction?_of_isDigits (h : IsDigits ds) (hne : ds ≠ []) :
    fraction? ('.' :: ds) = some (ds, []) := by
  have hmark : ∀ c ∈ ds, (!isExponentMark c) = true := fun c hc => by
    rw [not_isExponentMark_of_isDigit (h c hc)]
    rfl
  have htake := takeWhile_append hmark (startsOutside_nil _)
  have hdrop := dropWhile_append hmark (startsOutside_nil _)
  rw [List.append_nil] at htake hdrop
  simp only [fraction?, htake, hdrop, plainDigits?_of_isDigits h hne, Option.map_some]

/-- A number with digits on both sides of a point. -/
theorem float?_of_isWhole (negative : Bool) {whole fraction : List Char} (hwhole : IsWhole whole)
    (hfraction : IsDigits fraction) (hne : fraction ≠ []) :
    float? (signText negative ++ (whole ++ '.' :: fraction)) =
      some (.decimal negative ⟨number 10 (whole ++ fraction), -fraction.length⟩) := by
  have hmark : ∀ c ∈ signText negative ++ whole, (!isExponentMark c && c != '.') = true := by
    intro c hc
    rcases List.mem_append.1 hc with hc | hc
    · cases negative with
      | true => simp [List.mem_singleton.1 hc, isExponentMark]
      | false => cases hc
    · have hdigit := hwhole.digits c hc
      have hpoint : c ≠ '.' := by
        rintro rfl
        cases hdigit
      simp [not_isExponentMark_of_isDigit hdigit, hpoint]
  have hrest : StartsOutside (fun c => !isExponentMark c && c != '.') ('.' :: fraction) := by
    rintro _ ⟨⟩
    rfl
  have htake := takeWhile_append hmark hrest
  have hdrop := dropWhile_append hmark hrest
  rw [List.append_assoc] at htake hdrop
  obtain ⟨c, cs, hcs⟩ := List.exists_cons_of_ne_nil hwhole.ne_nil
  have hword : ∀ d ds, whole ++ '.' :: fraction = d :: ds → d.isDigit = true := by
    intro d ds heq
    rw [hcs] at heq
    exact (List.cons.inj heq).1 ▸ hwhole.digits c (by simp [hcs])
  have hinf : whole ++ '.' :: fraction ≠ ['i', 'n', 'f'] := fun heq => by
    cases hword _ _ heq
  have hnan : whole ++ '.' :: fraction ≠ ['n', 'a', 'n'] := fun heq => by
    cases hword _ _ heq
  simp only [float?, sign_signText negative hwhole.digits hwhole.ne_nil, htake, hdrop,
    signedDigits?_of_isWhole negative hwhole, fraction?_of_isDigits hfraction hne]
  simp [hinf, hnan, exponent?]

end Number

end Downstream.Toml

namespace Downstream

/-! ## Decimals as they are written -/

namespace Decimal

open Toml.Number

/-- The decimal that the digits of a decimal with a point denote. -/
def pointed (d : Decimal) : Decimal :=
  if 0 ≤ d.exponent then ⟨d.coefficient * tenTo (d.exponent + 1).toNat, -1⟩ else d

theorem nearest?_pointed (d : Decimal) : d.pointed.nearest? = d.nearest? := by
  rw [pointed]
  split
  next h =>
    have hexponent : d.exponent - ((d.exponent + 1).toNat : Int) = -1 := by omega
    rw [← hexponent, nearest?_mul_tenTo]
  · rfl

/-- The digits of a decimal on both sides of its point. -/
structure Splits (d : Decimal) (whole fraction : List Char) : Prop where
  text : d.positional = whole ++ '.' :: fraction
  isWhole : IsWhole whole
  isDigits : IsDigits fraction
  ne_nil : fraction ≠ []
  value : (⟨number 10 (whole ++ fraction), -fraction.length⟩ : Decimal) = d.pointed

/-- A whole number is written with a zero after the point. -/
theorem splits_of_nonneg {d : Decimal} (hd : d.coefficient = 0 → d = ⟨0, 0⟩) (he : 0 ≤ d.exponent) :
    d.Splits (Nat.toDigits 10 d.coefficient ++ List.replicate d.exponent.toNat '0') ['0'] where
  text := by simp [positional, Decimal.digits, he]
  isWhole := by
    by_cases hc : d.coefficient = 0
    · rw [hd hc]
      exact isWhole_zero
    · obtain ⟨c, ds, hds, hne⟩ := exists_toDigits_eq_cons (b := 10) (by decide) (by decide) hc
      have hall := (isDigits_toDigits d.coefficient).append
        (isDigits_replicate_zero d.exponent.toNat)
      rw [hds, List.cons_append] at hall ⊢
      exact isWhole_of_head hall hne
  isDigits := by decide
  ne_nil := List.cons_ne_nil _ _
  value := by
    have hexponent : (d.exponent + 1).toNat = d.exponent.toNat + 1 := by omega
    rw [pointed, if_pos he, List.append_assoc, ← List.replicate_succ',
      number_append (isDigits_toDigits _) (isDigits_replicate_zero _), number_replicate_zero,
      number_toDigits, List.length_replicate, hexponent, Nat.add_zero]
    rfl

/-- A number below one is written with a zero before the point. -/
theorem splits_of_length_le {d : Decimal} {places : Nat} (he : d.exponent = -places)
    (hplaces : 0 < places) (hlong : (Nat.toDigits 10 d.coefficient).length ≤ places) :
    d.Splits ['0'] (List.replicate (places - (Nat.toDigits 10 d.coefficient).length) '0' ++
      Nat.toDigits 10 d.coefficient) := by
  have hdigits := isDigits_toDigits d.coefficient
  have hzeros := isDigits_replicate_zero (places - (Nat.toDigits 10 d.coefficient).length)
  have hneg : ¬0 ≤ d.exponent := by omega
  have hp : (-d.exponent).toNat = places := by omega
  refine ⟨?_, isWhole_zero, hzeros.append hdigits, by simp, ?_⟩
  · have hsucc : places + 1 - (Nat.toDigits 10 d.coefficient).length =
        places - (Nat.toDigits 10 d.coefficient).length + 1 := by omega
    have hone : places - (Nat.toDigits 10 d.coefficient).length +
        (Nat.toDigits 10 d.coefficient).length + 1 - places = 1 := by omega
    simp [positional, Decimal.digits, hneg, hp, hsucc, hone, List.replicate_succ]
  · have hlength : (List.replicate (places - (Nat.toDigits 10 d.coefficient).length) '0' ++
        Nat.toDigits 10 d.coefficient).length = places := by
      rw [List.length_append, List.length_replicate]
      omega
    have hpointed : d.pointed = d := if_neg hneg
    rw [number_append (by decide) (hzeros.append hdigits), number_append hzeros hdigits,
      number_replicate_zero, number_toDigits, hlength, hpointed, ← he]
    simp [number, numberOn, digitValue?]

/-- Another number is written with its first digits before the point. -/
theorem splits_of_lt_length {d : Decimal} {places : Nat} (he : d.exponent = -places)
    (hplaces : 0 < places) (hd : d.coefficient ≠ 0)
    (hshort : places < (Nat.toDigits 10 d.coefficient).length) :
    d.Splits
      ((Nat.toDigits 10 d.coefficient).take ((Nat.toDigits 10 d.coefficient).length - places))
      ((Nat.toDigits 10 d.coefficient).drop ((Nat.toDigits 10 d.coefficient).length - places)) := by
  have hdigits := isDigits_toDigits d.coefficient
  have hneg : ¬0 ≤ d.exponent := by omega
  have hp : (-d.exponent).toNat = places := by omega
  have hlength : ((Nat.toDigits 10 d.coefficient).drop
      ((Nat.toDigits 10 d.coefficient).length - places)).length = places := by
    rw [List.length_drop]
    omega
  refine ⟨?_, ?_, fun c hc => hdigits c (List.mem_of_mem_drop hc), ?_, ?_⟩
  · have hnone : places + 1 - (Nat.toDigits 10 d.coefficient).length = 0 := by omega
    simp [positional, Decimal.digits, hneg, hp, hnone]
  · obtain ⟨c, ds, hds, hne⟩ := exists_toDigits_eq_cons (b := 10) (by decide) (by decide) hd
    obtain ⟨k, hk⟩ : ∃ k, (Nat.toDigits 10 d.coefficient).length - places = k + 1 :=
      ⟨(Nat.toDigits 10 d.coefficient).length - places - 1, by omega⟩
    have hhead : (Nat.toDigits 10 d.coefficient).take (k + 1) = c :: ds.take k := by
      rw [hds, List.take_succ_cons]
    rw [hk, hhead]
    exact isWhole_of_head (fun x hx => hdigits x (List.mem_of_mem_take (hhead ▸ hx))) hne
  · intro hnil
    rw [hnil, List.length_nil] at hlength
    omega
  · have hpointed : d.pointed = d := if_neg hneg
    rw [List.take_append_drop, number_toDigits, hlength, hpointed, ← he]

/-- The digits of a decimal stand on both sides of a point. -/
theorem exists_splits {d : Decimal} (hd : d.coefficient = 0 → d = ⟨0, 0⟩) :
    ∃ whole fraction, d.Splits whole fraction := by
  by_cases he : 0 ≤ d.exponent
  · exact ⟨_, _, splits_of_nonneg hd he⟩
  · obtain ⟨places, hplaces⟩ : ∃ places : Nat, d.exponent = -places := ⟨d.exponent.natAbs, by omega⟩
    by_cases hlong : (Nat.toDigits 10 d.coefficient).length ≤ places
    · exact ⟨_, _, splits_of_length_le hplaces (by omega) hlong⟩
    · refine ⟨_, _, splits_of_lt_length hplaces (by omega) (fun hc => ?_) (by omega)⟩
      rw [hd hc] at he
      exact he (Int.le_refl 0)

end Decimal

namespace Binary64

/-- What the digits of a number denote. -/
def numeral : Binary64 → Toml.Numeral
  | finite negative size => .decimal negative size.shortest.pointed
  | infinite negative => .infinite negative
  | nan => .nan

/-- The digits of a number denote a numeral that the number is nearest to. -/
theorem toBinary64?_numeral (x : Binary64) : x.numeral.toBinary64? = some x := by
  cases x with
  | finite negative size =>
    simp [numeral, Toml.Numeral.toBinary64?, ofDecimal?, Decimal.nearest?_pointed,
      Rank.nearest?_shortest]
  | infinite negative => rfl
  | nan => rfl

open Toml.Number

theorem exists_text_finite_eq (negative : Bool) (size : Rank) :
    ∃ whole fraction, size.shortest.Splits whole fraction ∧
      (finite negative size).text.toList = signText negative ++ (whole ++ '.' :: fraction) := by
  obtain ⟨whole, fraction, hsplits⟩ := Decimal.exists_splits size.shortest_of_coefficient_eq_zero
  refine ⟨whole, fraction, hsplits, ?_⟩
  cases negative <;> simp [text, signText, hsplits.text]

/-- **A number is read as it was written**, and is not taken for a whole number. -/
theorem float?_text (x : Binary64) :
    integer? x.text.toList = none ∧ float? x.text.toList = some x.numeral := by
  cases x with
  | finite negative size =>
    obtain ⟨whole, fraction, hsplits, htext⟩ := exists_text_finite_eq negative size
    rw [htext]
    refine ⟨integer?_eq_none_of_point negative hsplits.isWhole fraction, ?_⟩
    rw [float?_of_isWhole negative hsplits.isWhole hsplits.isDigits hsplits.ne_nil, hsplits.value]
    rfl
  | infinite negative => cases negative <;> decide
  | nan => decide

end Binary64

end Downstream
