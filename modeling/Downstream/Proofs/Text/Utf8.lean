import Downstream.Text.Utf8

/-!
# Characters at the front of bytes

A character is read in one of four ways, by the number of its bytes (`Decodes`). In each of them it
is a first byte and the continuation bytes that belong to it (`decode?_eq_some`), and `decode?` looks
no further than the continuation bytes right behind the first one (`decode?_takeWhile`). So a
character is not affected by what stands behind the next byte that continues nothing
(`decode?_congr`).
-/

namespace Downstream.Utf8

/-- Whether a byte continues a character. -/
def continues (b : UInt8) : Bool :=
  (continuation? b).isSome

theorem continues_of_continuation? {b : UInt8} {v : Nat} (h : continuation? b = some v) :
    continues b = true := by
  simp [continues, h]

theorem continuation?_eq_none {b : UInt8} (h : ¬continues b = true) : continuation? b = none := by
  simpa [continues] using h

/-- An ASCII byte is a character of its own. -/
theorem decode?_ascii {a : UInt8} (h : a < 0x80) (rest : Bytes) :
    decode? (a :: rest) = some (Char.ofNat a.toNat, 1) := by
  simp [decode?, h]

theorem not_continues_of_ascii {a : UInt8} (h : a < 0x80) : ¬continues a = true := by
  have hn : ¬(0x80 ≤ a ∧ a ≤ 0xBF) := fun hc => absurd h (UInt8.not_lt.2 hc.1)
  simp [continues, continuation?, hn]

theorem le_toNat_of_scalar? {least v : Nat} {c : Char} (h : scalar? least v = some c) :
    least ≤ c.toNat := by
  by_cases hv : least ≤ v ∧ v.isValidChar
  · rw [scalar?, dif_pos hv] at h
    cases h
    exact hv.1
  · rw [scalar?, dif_neg hv] at h
    cases h

/-- How a character is read from the front of a text, one way for each number of bytes. -/
inductive Decodes (c : Char) : Bytes → Nat → Prop
  | one {a : UInt8} {rest : Bytes} (ha : a < 0x80) (hc : c = Char.ofNat a.toNat) :
      Decodes c (a :: rest) 1
  | two {a b : UInt8} {x : Nat} {rest : Bytes} (ha : 0xC0 ≤ a.toNat ∧ a.toNat < 0xE0)
      (hb : continuation? b = some x)
      (hc : scalar? 0x80 ((a.toNat - 0xC0) * 0x40 + x) = some c) :
      Decodes c (a :: b :: rest) 2
  | three {a b b' : UInt8} {x y : Nat} {rest : Bytes} (ha : 0xE0 ≤ a.toNat ∧ a.toNat < 0xF0)
      (hb : continuation? b = some x) (hb' : continuation? b' = some y)
      (hc : scalar? 0x800 (((a.toNat - 0xE0) * 0x40 + x) * 0x40 + y) = some c) :
      Decodes c (a :: b :: b' :: rest) 3
  | four {a b b' b'' : UInt8} {x y z : Nat} {rest : Bytes}
      (ha : 0xF0 ≤ a.toNat ∧ a.toNat < 0xF8) (hb : continuation? b = some x)
      (hb' : continuation? b' = some y) (hb'' : continuation? b'' = some z)
      (hc : scalar? 0x10000 ((((a.toNat - 0xF0) * 0x40 + x) * 0x40 + y) * 0x40 + z) = some c) :
      Decodes c (a :: b :: b' :: b'' :: rest) 4

theorem decodes_of_decode? {bytes : Bytes} {c : Char} {n : Nat} (h : decode? bytes = some (c, n)) :
    Decodes c bytes n := by
  unfold decode? at h
  split at h
  · cases h
  next a rest =>
    split at h
    next ha =>
      cases h
      exact .one ha rfl
    simp only [UInt8.lt_iff_toNat_lt, UInt8.reduceToNat] at h
    split at h
    · cases h
    split at h
    · split at h
      · simp only [Option.bind_eq_bind, Option.bind_eq_some_iff, Option.pure_def,
          Option.some.injEq, Prod.mk.injEq] at h
        obtain ⟨x, hx, d, hd, rfl, rfl⟩ := h
        exact .two (by omega) hx hd
      · cases h
    split at h
    · split at h
      · simp only [Option.bind_eq_bind, Option.bind_eq_some_iff, Option.pure_def,
          Option.some.injEq, Prod.mk.injEq] at h
        obtain ⟨x, hx, y, hy, d, hd, rfl, rfl⟩ := h
        exact .three (by omega) hx hy hd
      · cases h
    split at h
    · split at h
      · simp only [Option.bind_eq_bind, Option.bind_eq_some_iff, Option.pure_def,
          Option.some.injEq, Prod.mk.injEq] at h
        obtain ⟨x, hx, y, hy, z, hz, d, hd, rfl, rfl⟩ := h
        exact .four (by omega) hx hy hz hd
      · cases h
    · cases h

/-- A character at the front is a first byte and the continuation bytes that belong to it; without
any it is an ASCII character, with some it is none. -/
theorem decode?_eq_some {bytes : Bytes} {c : Char} {n : Nat} (h : decode? bytes = some (c, n)) :
    ∃ a tail rest, bytes = a :: (tail ++ rest) ∧ n = tail.length + 1 ∧ tail.length ≤ 3 ∧
      (∀ b ∈ tail, continues b = true) ∧ (tail = [] → a < 0x80 ∧ c = Char.ofNat a.toNat) ∧
      (tail ≠ [] → 0x80 ≤ c.toNat) := by
  cases decodes_of_decode? h with
  | @one a rest ha hc =>
    exact ⟨a, [], rest, rfl, rfl, by simp, by simp, fun _ => ⟨ha, hc⟩, fun hne => absurd rfl hne⟩
  | @two a b x rest _ hb hc =>
    exact ⟨a, [b], rest, rfl, rfl, by simp, by simp [continues_of_continuation? hb], by simp,
      fun _ => le_toNat_of_scalar? hc⟩
  | @three a b b' x y rest _ hb hb' hc =>
    exact ⟨a, [b, b'], rest, rfl, rfl, by simp,
      by simp [continues_of_continuation? hb, continues_of_continuation? hb'], by simp,
      fun _ => Nat.le_trans (by decide) (le_toNat_of_scalar? hc)⟩
  | @four a b b' b'' x y z rest _ hb hb' hb'' hc =>
    exact ⟨a, [b, b', b''], rest, rfl, rfl, by simp,
      by simp [continues_of_continuation? hb, continues_of_continuation? hb',
        continues_of_continuation? hb''], by simp,
      fun _ => Nat.le_trans (by decide) (le_toNat_of_scalar? hc)⟩

theorem decode?_width {bytes : Bytes} {c : Char} {n : Nat} (h : decode? bytes = some (c, n)) :
    1 ≤ n ∧ n ≤ 4 ∧ n ≤ bytes.length := by
  obtain ⟨a, tail, rest, rfl, rfl, hlen, -⟩ := decode?_eq_some h
  simp only [List.length_cons, List.length_append]
  omega

/-- An ASCII character is one byte. -/
theorem eq_cons_of_decode?_ascii {bytes : Bytes} {c : Char} {n : Nat}
    (h : decode? bytes = some (c, n)) (hc : c.toNat < 0x80) :
    n = 1 ∧ ∃ a rest, bytes = a :: rest ∧ a < 0x80 ∧ c = Char.ofNat a.toNat := by
  obtain ⟨a, tail, rest, rfl, rfl, -, -, hnil, hne⟩ := decode?_eq_some h
  by_cases ht : tail = []
  · subst ht
    exact ⟨rfl, a, rest, rfl, (hnil rfl).1, (hnil rfl).2⟩
  · exact absurd hc (Nat.not_lt.2 (hne ht))

/-- Behind the first byte, only the continuation bytes up to the first other byte count. -/
theorem decode?_takeWhile (a : UInt8) (rest : Bytes) :
    decode? (a :: rest) = decode? (a :: rest.takeWhile continues) := by
  rcases rest with _ | ⟨b, rest⟩
  · rfl
  by_cases hb : continues b = true
  · rcases rest with _ | ⟨c, rest⟩
    · simp [decode?, hb]
    by_cases hc : continues c = true
    · rcases rest with _ | ⟨d, rest⟩
      · simp [decode?, hb, hc]
      by_cases hd : continues d = true
      · simp [decode?, hb, hc, hd]
      · simp [decode?, hb, hc, hd, continuation?_eq_none hd]
    · rcases rest with _ | ⟨d, rest⟩ <;> simp [decode?, hb, hc, continuation?_eq_none hc]
  · rcases rest with _ | ⟨c, _ | ⟨d, rest⟩⟩ <;> simp [decode?, hb, continuation?_eq_none hb]

/-- Whether nothing at the front can belong to a character that starts before: there is no byte, or
one that continues nothing. -/
def Fresh (bytes : Bytes) : Prop :=
  ∀ b ∈ bytes.head?, ¬continues b = true

theorem fresh_nil : Fresh [] := fun b hb => by cases hb

theorem fresh_cons {b : UInt8} (h : b < 0x80) (rest : Bytes) : Fresh (b :: rest) := by
  intro a ha
  obtain rfl : b = a := Option.some.inj ha
  exact not_continues_of_ascii h

theorem takeWhile_continues_append {w u : Bytes} (h : Fresh u) :
    (w ++ u).takeWhile continues = w.takeWhile continues := by
  induction w with
  | nil =>
    rcases u with _ | ⟨b, u⟩
    · rfl
    · have hb : ¬continues b = true := h b rfl
      simp [hb]
  | cons a w ih =>
    by_cases ha : continues a = true
    · simp [ha, ih]
    · simp [ha]

/-- What follows a character, from a byte on that continues nothing, has no part in it. -/
theorem decode?_congr {w u v : Bytes} (hw : w ≠ []) (hu : Fresh u) (hv : Fresh v) :
    decode? (w ++ u) = decode? (w ++ v) := by
  obtain ⟨a, w, rfl⟩ := List.exists_cons_of_ne_nil hw
  rw [List.cons_append, List.cons_append, decode?_takeWhile, takeWhile_continues_append hu,
    decode?_takeWhile a (w ++ v), takeWhile_continues_append hv]

end Downstream.Utf8
