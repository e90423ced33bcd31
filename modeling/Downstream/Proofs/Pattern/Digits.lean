import Downstream.Proofs.Pattern.Literal

/-!
# Runs of digits that end a word

The digits 0 to 9 are characters of one byte each, and characters of words. So the place behind a
digit is an edge of a word exactly where no character of words follows
(`Cursor.AfterDigit.holds_boundary`), and a repetition of digits in front of such an edge has to
take all digits there are (`Expr.flatMap_stops_digits`).
-/

namespace Downstream.Pattern

open Unicode (CharSet)
open Unicode.Property (isWord)
open Utf8 (starts run IsAscii)

/-- The digits 0 to 9. -/
def digits : CharSet :=
  .ranges [(0x30, 0x39)]

/-- Whether a character is one of the digits 0 to 9. -/
def isDecimal : Char → Bool :=
  Expr.member digits

variable {b : UInt8} {rest text : Bytes}

theorem isDecimal_iff {c : Char} : isDecimal c = true ↔ 0x30 ≤ c.toNat ∧ c.toNat ≤ 0x39 := by
  simp only [isDecimal, Expr.member, digits, CharSet.has_ranges, Unicode.Ranges.has]
  by_cases h : c.toNat < 0x30
  · rw [if_pos h]
    exact ⟨fun hf => (by cases hf), fun hc => absurd hc.1 (by omega)⟩
  · rw [if_neg h]
    by_cases h' : c.toNat ≤ 0x39
    · rw [if_pos h']
      exact ⟨fun _ => ⟨by omega, h'⟩, fun _ => rfl⟩
    · rw [if_neg h']
      exact ⟨fun hf => (by cases hf), fun hc => absurd hc.2 h'⟩

/-- A text that starts with a digit starts with the byte of one. -/
theorem exists_cons_of_starts_digit (h : starts isDecimal text = true) :
    ∃ b rest, text = b :: rest ∧ IsAscii isDecimal b := by
  obtain ⟨c, width, hd, hc⟩ := Utf8.exists_of_starts h
  have hle := (isDecimal_iff.1 hc).2
  obtain ⟨-, b, rest, rfl, hb, rfl⟩ := Utf8.eq_cons_of_decode?_ascii hd (by omega)
  exact ⟨b, rest, rfl, hb, hc⟩

theorem run_digit_cons (h : IsAscii isDecimal b) (rest : Bytes) :
    run isDecimal (b :: rest) = 1 + run isDecimal rest :=
  Utf8.run_append (w := [b]) (by simpa using h) rest

theorem isWord_of_isDecimal {c : Char} (h : isDecimal c = true) : isWord c = true := by
  have hall : ∀ n < 10, Unicode.Property.word.has (0x30 + n) = true := by decide +kernel
  obtain ⟨hle, hle'⟩ := isDecimal_iff.1 h
  have hc := hall (c.toNat - 0x30) (by omega)
  rwa [show 0x30 + (c.toNat - 0x30) = c.toNat by omega] at hc

theorem starts_word_of_starts_digit (h : starts isDecimal text = true) :
    starts isWord text = true := by
  obtain ⟨b, rest, rfl, hb⟩ := exists_cons_of_starts_digit h
  exact Utf8.starts_cons ⟨hb.1, isWord_of_isDecimal hb.2⟩ rest

/-! ## Places behind a digit -/

/-- A digit stands right before a place. -/
def Cursor.AfterDigit (c : Cursor) : Prop :=
  ∃ b ∈ c.before.head?, IsAscii isDecimal b

namespace Cursor

variable {c : Cursor}

theorem afterDigit_skip (h : c.after = b :: rest) (hb : IsAscii isDecimal b) :
    (c.skip 1).AfterDigit := by
  refine ⟨b, ?_, hb⟩
  simp [skip, h]

/-- The place behind a run of digits is one behind a digit. -/
theorem afterDigit_skip_run (h : starts isDecimal c.after = true) :
    (c.skip (run isDecimal c.after)).AfterDigit := by
  induction htext : c.after using Utf8.run_induction (p := isDecimal) generalizing c with
  | stop text hs =>
    rw [htext, hs] at h
    cases h
  | step text char width hd hp ih =>
    subst htext
    obtain ⟨b, rest, hcons, hb⟩ := exists_cons_of_starts_digit h
    obtain rfl : 1 = width := by
      rw [hcons, Utf8.decode?_ascii hb.1, Option.some.injEq, Prod.mk.injEq] at hd
      exact hd.2
    rw [Utf8.run_of_starts hd hp, ← skip_skip]
    by_cases hs : starts isDecimal (c.skip 1).after = true
    · exact ih hs rfl
    · rw [← skip_after, Utf8.run_of_not_starts (eq_false_of_ne_true hs), skip_zero]
      exact afterDigit_skip hcons hb

theorem isLead_of_ascii (h : b < 0x80) : Utf8.isLead b = true := by
  have hall : ∀ n < 0x80, Utf8.isLead (UInt8.ofNat n) = true := by decide
  have hb := hall b.toNat (UInt8.lt_iff_toNat_lt.1 h)
  rwa [UInt8.ofNat_toNat] at hb

theorem AfterDigit.sideBefore_eq (h : c.AfterDigit) : c.sideBefore true = .word := by
  obtain ⟨b, hb, hlt, hdigit⟩ := h
  unfold sideBefore
  cases hbefore : c.before with
  | nil =>
    rw [hbefore] at hb
    cases hb
  | cons a before =>
    obtain rfl : a = b := by simpa [hbefore] using hb
    simp [Utf8.decodeBefore?, Utf8.nearestLead, isLead_of_ascii hlt, Utf8.decode?_ascii hlt,
      Side.ofChar, isWord_of_isDecimal hdigit]

theorem sideAfter_eq_word_iff : c.sideAfter true = .word ↔ starts isWord c.after = true := by
  unfold sideAfter starts
  cases c.after with
  | nil => simp [Utf8.decode?]
  | cons a rest =>
    cases Utf8.decode? (a :: rest) with
    | none => simp [Side.ofChar]
    | some q =>
      obtain ⟨d, width⟩ := q
      by_cases hw : isWord d = true <;> simp [Side.ofChar, hw]

/-- Behind a digit a word ends unless another character of words follows. -/
theorem AfterDigit.holds_boundary (h : c.AfterDigit) :
    (Look.word true .boundary).holds c = !starts isWord c.after := by
  have hafter := sideAfter_eq_word_iff (c := c)
  rw [Look.holds, Edge.holds, h.sideBefore_eq]
  cases hs : starts isWord c.after with
  | true => simp [hafter.2 hs]
  | false =>
    have hne : c.sideAfter true ≠ .word := fun he => by
      rw [hafter.1 he] at hs
      cases hs
    simp [hne]

end Cursor

/-! ## Repetitions of digits -/

namespace Expr

theorem stops_digit_of_cons {c : Cursor} (h : c.after = b :: rest) (hb : IsAscii isDecimal b) :
    (scalar digits).stops c = [c.skip 1] :=
  stops_scalar_of_starts (by rw [h, Utf8.decode?_ascii hb.1]) hb.2

variable {f : Cursor → List Cursor}
  (hf : ∀ d : Cursor, d.AfterDigit → starts isDecimal d.after = true → f d = [])

include hf

/-- If what follows has no match where another digit could be taken, all digits are taken. -/
theorem flatMap_rounds_digits {c : Cursor} (h : c.AfterDigit) :
    (rounds true (scalar digits).stops c.after.length c).flatMap f =
      f (c.skip (run isDecimal c.after)) := by
  induction htext : c.after using Utf8.run_induction (p := isDecimal) generalizing c with
  | stop text hs =>
    subst htext
    rw [rounds_length fun _ _ h => stops_reaches _ h, stops_scalar_of_not_starts hs,
      Utf8.run_of_not_starts hs]
    simp
  | step text char width hd hp ih =>
    subst htext
    have hs : starts isDecimal c.after = true := by
      rw [starts, hd]
      exact hp
    obtain ⟨b, rest, hcons, hb⟩ := exists_cons_of_starts_digit hs
    obtain rfl : 1 = width := by
      rw [hcons, Utf8.decode?_ascii hb.1, Option.some.injEq, Prod.mk.injEq] at hd
      exact hd.2
    have hne : decide (c.skip 1 ≠ c) = true := decide_eq_true (Cursor.skip_ne Nat.one_pos c)
    have hmore : (rounds true (scalar digits).stops (c.skip 1).after.length (c.skip 1)).flatMap f =
        f ((c.skip 1).skip (run isDecimal (c.skip 1).after)) :=
      ih (Cursor.afterDigit_skip hcons hb) rfl
    rw [rounds_length fun _ _ h => stops_reaches _ h, stops_digit_of_cons hcons hb,
      List.filter_cons_of_pos (by exact hne), List.filter_nil]
    simp only [if_true, List.flatMap_append, List.flatMap_cons, List.flatMap_nil, List.append_nil]
    rw [hf c h hs, List.append_nil, Utf8.run_of_starts hd hp, ← Cursor.skip_skip]
    exact hmore

theorem flatMap_stops_digits (c : Cursor) :
    ((plus true (scalar digits)).stops c).flatMap f =
      if starts isDecimal c.after = true then f (c.skip (run isDecimal c.after)) else [] := by
  by_cases hs : starts isDecimal c.after = true
  · obtain ⟨b, rest, hcons, hb⟩ := exists_cons_of_starts_digit hs
    have hstops : (plus true (scalar digits)).stops c =
        rounds true (scalar digits).stops (c.skip 1).after.length (c.skip 1) := by
      rw [stops, stops_digit_of_cons hcons hb, List.flatMap_cons, List.flatMap_nil,
        List.append_nil, if_neg (Cursor.skip_ne Nat.one_pos c)]
    rw [if_pos hs, hstops, flatMap_rounds_digits hf (Cursor.afterDigit_skip hcons hb),
      Cursor.skip_skip, Cursor.skip_after, hcons, run_digit_cons hb, List.drop_succ_cons,
      List.drop_zero]
  · rw [if_neg hs, stops, stops_scalar_of_not_starts (eq_false_of_ne_true hs)]
    rfl

end Expr

end Downstream.Pattern
