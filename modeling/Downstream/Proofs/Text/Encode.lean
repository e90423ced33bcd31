import Downstream.Proofs.Text.Order
import Downstream.Proofs.Text.Run

/-!
# The bytes of characters

`encode` writes a character and `decode?` reads the one at the front of a text. They agree: a
character is read exactly where its bytes stand (`decode?_eq_some_iff`), whatever follows them, and
bytes that no character is written with are never read as one.

Each of the two is given by one equation for each number of bytes, from one to four. `IsRun`
says what the characters at the front of a text are that a property holds of.
-/

namespace Downstream.Utf8

variable {c : Char} {text : Bytes} {n : Nat}

theorem eq_ofNat_of_toNat {b : UInt8} {v : Nat} (h : b.toNat = v) : b = .ofNat v := by
  rw [← h, UInt8.ofNat_toNat]

theorem toNat_ofNat_of_lt {v : Nat} (h : v < 256) : (UInt8.ofNat v).toNat = v :=
  UInt8.toNat_ofNat_of_lt' h

theorem continuation?_eq_some_iff {b : UInt8} {x : Nat} :
    continuation? b = some x ↔ x < 0x40 ∧ b = .ofNat (x + 0x80) := by
  have hle : (0x80 ≤ b ∧ b ≤ 0xBF) ↔ 0x80 ≤ b.toNat ∧ b.toNat ≤ 0xBF := by
    rw [UInt8.le_iff_toNat_le, UInt8.le_iff_toNat_le]
    rfl
  simp only [continuation?, hle, Option.ite_none_right_eq_some, Option.some.injEq]
  constructor
  · rintro ⟨hb, rfl⟩
    exact ⟨by omega, eq_ofNat_of_toNat (by omega)⟩
  · rintro ⟨hx, rfl⟩
    have hb := toNat_ofNat_of_lt (v := x + 0x80) (by omega)
    omega

theorem scalar?_eq_some_iff {least v : Nat} :
    scalar? least v = some c ↔ least ≤ v ∧ c.toNat = v := by
  unfold scalar?
  constructor
  · intro h
    by_cases hv : least ≤ v ∧ v.isValidChar
    · rw [dif_pos hv] at h
      cases h
      exact ⟨hv.1, rfl⟩
    · rw [dif_neg hv] at h
      cases h
  · rintro ⟨hle, rfl⟩
    rw [dif_pos ⟨hle, c.valid⟩]
    exact congrArg some (Char.ext rfl)

/-! ## Characters of several bytes -/

section

variable {a b b' b'' : UInt8} {x y z : Nat}

theorem decode?_two (ha : 0xC0 ≤ a.toNat ∧ a.toNat < 0xE0) (hb : continuation? b = some x)
    (rest : Bytes) :
    decode? (a :: b :: rest) = (scalar? 0x80 ((a.toNat - 0xC0) * 0x40 + x)).map (·, 2) := by
  simp only [decode?, UInt8.lt_iff_toNat_lt, UInt8.reduceToNat, hb, Option.bind_eq_bind,
    Option.bind_some, Option.map_eq_bind]
  rw [if_neg (by omega), if_neg (by omega), if_pos ha.2]
  rfl

theorem decode?_three (ha : 0xE0 ≤ a.toNat ∧ a.toNat < 0xF0) (hb : continuation? b = some x)
    (hb' : continuation? b' = some y) (rest : Bytes) :
    decode? (a :: b :: b' :: rest) =
      (scalar? 0x800 (((a.toNat - 0xE0) * 0x40 + x) * 0x40 + y)).map (·, 3) := by
  simp only [decode?, UInt8.lt_iff_toNat_lt, UInt8.reduceToNat, hb, hb', Option.bind_eq_bind,
    Option.bind_some, Option.map_eq_bind]
  rw [if_neg (by omega), if_neg (by omega), if_neg (by omega), if_pos ha.2]
  rfl

theorem decode?_four (ha : 0xF0 ≤ a.toNat ∧ a.toNat < 0xF8) (hb : continuation? b = some x)
    (hb' : continuation? b' = some y) (hb'' : continuation? b'' = some z) (rest : Bytes) :
    decode? (a :: b :: b' :: b'' :: rest) =
      (scalar? 0x10000 ((((a.toNat - 0xF0) * 0x40 + x) * 0x40 + y) * 0x40 + z)).map (·, 4) := by
  simp only [decode?, UInt8.lt_iff_toNat_lt, UInt8.reduceToNat, hb, hb', hb'', Option.bind_eq_bind,
    Option.bind_some, Option.map_eq_bind]
  rw [if_neg (by omega), if_neg (by omega), if_neg (by omega), if_neg (by omega), if_pos ha.2]
  rfl

end

theorem encode_one (h : c.toNat ≤ 0x7F) : encode c = [.ofNat c.toNat] := if_pos h

theorem encode_two (h : ¬c.toNat ≤ 0x7F) (h' : c.toNat ≤ 0x7FF) :
    encode c = [.ofNat (c.toNat / 64 + 0xC0), .ofNat (c.toNat % 64 + 0x80)] := by
  have hlead : c.toNat / 64 % 32 = c.toNat / 64 := by omega
  rw [← hlead]
  exact (if_neg h).trans (if_pos h')

theorem encode_three (h : ¬c.toNat ≤ 0x7FF) (h' : c.toNat ≤ 0xFFFF) :
    encode c = [.ofNat (c.toNat / 4096 + 0xE0), .ofNat (c.toNat / 64 % 64 + 0x80),
      .ofNat (c.toNat % 64 + 0x80)] := by
  have hlead : c.toNat / 4096 % 16 = c.toNat / 4096 := by omega
  rw [← hlead]
  exact (if_neg fun hle => h (Nat.le_trans hle (by decide))).trans ((if_neg h).trans (if_pos h'))

theorem encode_four (h : ¬c.toNat ≤ 0xFFFF) :
    encode c = [.ofNat (c.toNat / 262144 + 0xF0), .ofNat (c.toNat / 4096 % 64 + 0x80),
      .ofNat (c.toNat / 64 % 64 + 0x80), .ofNat (c.toNat % 64 + 0x80)] := by
  have hlt := toNat_lt c
  have hlead : c.toNat / 262144 % 8 = c.toNat / 262144 := by omega
  rw [← hlead]
  exact (if_neg fun hle => h (Nat.le_trans hle (by decide))).trans
    ((if_neg fun hle => h (Nat.le_trans hle (by decide))).trans (if_neg h))

/-- The bytes of a character are read as this character, whatever follows them. -/
theorem decode?_encode_append (c : Char) (rest : Bytes) :
    decode? (encode c ++ rest) = some (c, (encode c).length) := by
  have hlt := toNat_lt c
  have hcont : ∀ v, continuation? (.ofNat (v % 64 + 0x80)) = some (v % 64) := fun v =>
    continuation?_eq_some_iff.2 ⟨Nat.mod_lt _ (by decide), rfl⟩
  by_cases h1 : c.toNat ≤ 0x7F
  · have ha := toNat_ofNat_of_lt (v := c.toNat) (by omega)
    have hascii : UInt8.ofNat c.toNat < 0x80 := by
      rw [UInt8.lt_iff_toNat_lt, ha]
      exact Nat.lt_succ_of_le h1
    rw [encode_one h1, List.singleton_append, decode?_ascii hascii, ha, Char.ofNat_toNat]
    rfl
  by_cases h2 : c.toNat ≤ 0x7FF
  · have ha := toNat_ofNat_of_lt (v := c.toNat / 64 + 0xC0) (by omega)
    rw [encode_two h1 h2, List.cons_append, List.cons_append, decode?_two (by omega) (hcont _), ha,
      scalar?_eq_some_iff (c := c) |>.2 ⟨by omega, by omega⟩]
    rfl
  by_cases h3 : c.toNat ≤ 0xFFFF
  · have ha := toNat_ofNat_of_lt (v := c.toNat / 4096 + 0xE0) (by omega)
    rw [encode_three h2 h3, List.cons_append, List.cons_append, List.cons_append,
      decode?_three (by omega) (hcont _) (hcont _), ha,
      scalar?_eq_some_iff (c := c) |>.2 ⟨by omega, by omega⟩]
    rfl
  · have ha := toNat_ofNat_of_lt (v := c.toNat / 262144 + 0xF0) (by omega)
    rw [encode_four h3, List.cons_append, List.cons_append, List.cons_append, List.cons_append,
      decode?_four (by omega) (hcont _) (hcont _) (hcont _), ha,
      scalar?_eq_some_iff (c := c) |>.2 ⟨by omega, by omega⟩]
    rfl

/-- The character at the front of a text is there with all its bytes. -/
theorem encode_of_decode? (h : decode? text = some (c, n)) :
    encode c <+: text ∧ n = (encode c).length := by
  cases decodes_of_decode? h with
  | @one a rest ha hc =>
    have hlt : a.toNat < 0x80 := UInt8.lt_iff_toNat_lt.1 ha
    have hchar : c.toNat = a.toNat := by
      rw [hc, Char.ofNat, dif_pos (Or.inl (by omega))]
      rfl
    rw [encode_one (by omega), hchar, UInt8.ofNat_toNat]
    exact ⟨⟨rest, rfl⟩, rfl⟩
  | @two a b x rest ha hb hc =>
    obtain ⟨hx, rfl⟩ := continuation?_eq_some_iff.1 hb
    obtain ⟨hle, hv⟩ := scalar?_eq_some_iff.1 hc
    rw [encode_two (by omega) (by omega), show c.toNat / 64 + 0xC0 = a.toNat by omega,
      UInt8.ofNat_toNat, show c.toNat % 64 = x by omega]
    exact ⟨⟨rest, rfl⟩, rfl⟩
  | @three a b b' x y rest ha hb hb' hc =>
    obtain ⟨hx, rfl⟩ := continuation?_eq_some_iff.1 hb
    obtain ⟨hy, rfl⟩ := continuation?_eq_some_iff.1 hb'
    obtain ⟨hle, hv⟩ := scalar?_eq_some_iff.1 hc
    rw [encode_three (by omega) (by omega), show c.toNat / 4096 + 0xE0 = a.toNat by omega,
      UInt8.ofNat_toNat, show c.toNat / 64 % 64 = x by omega, show c.toNat % 64 = y by omega]
    exact ⟨⟨rest, rfl⟩, rfl⟩
  | @four a b b' b'' x y z rest ha hb hb' hb'' hc =>
    obtain ⟨hx, rfl⟩ := continuation?_eq_some_iff.1 hb
    obtain ⟨hy, rfl⟩ := continuation?_eq_some_iff.1 hb'
    obtain ⟨hz, rfl⟩ := continuation?_eq_some_iff.1 hb''
    obtain ⟨hle, hv⟩ := scalar?_eq_some_iff.1 hc
    rw [encode_four (by omega), show c.toNat / 262144 + 0xF0 = a.toNat by omega,
      UInt8.ofNat_toNat, show c.toNat / 4096 % 64 = x by omega,
      show c.toNat / 64 % 64 = y by omega, show c.toNat % 64 = z by omega]
    exact ⟨⟨rest, rfl⟩, rfl⟩

/-- **A character is read where its bytes stand**, and nowhere else. -/
theorem decode?_eq_some_iff :
    decode? text = some (c, n) ↔ encode c <+: text ∧ n = (encode c).length := by
  refine ⟨encode_of_decode?, ?_⟩
  rintro ⟨⟨rest, rfl⟩, rfl⟩
  exact decode?_encode_append c rest

/-- A character is a first byte and bytes that continue it. -/
theorem exists_encode_eq_cons (c : Char) :
    ∃ a tail, encode c = a :: tail ∧ ∀ b ∈ tail, continues b = true := by
  obtain ⟨a, tail, rest, heq, hlen, -, htail, -⟩ := decode?_eq_some (decode?_encode_append c [])
  rw [List.append_nil] at heq
  obtain rfl : rest = [] := by
    have hlen' := congrArg List.length heq
    rw [hlen, List.length_cons, List.length_append] at hlen'
    exact List.eq_nil_of_length_eq_zero (by omega)
  exact ⟨a, tail, by rw [heq, List.append_nil], htail⟩

/-! ## Runs of characters -/

variable {p : Char → Bool}

theorem starts_encode_append (hp : p c = true) (rest : Bytes) :
    starts p (encode c ++ rest) = true := by
  rw [starts, decode?_encode_append]
  exact hp

/-- No character that `p` holds of is encoded at the front of a text. -/
def Ends (p : Char → Bool) (text : Bytes) : Prop :=
  ∀ c, p c = true → ¬encode c <+: text

theorem starts_eq_false_iff : starts p text = false ↔ Ends p text := by
  constructor
  · rintro h c hp ⟨rest, rfl⟩
    rw [starts_encode_append hp] at h
    cases h
  · intro h
    rw [← Bool.not_eq_true]
    intro hs
    obtain ⟨c, n, hd, hp⟩ := exists_of_starts hs
    exact h c hp (decode?_eq_some_iff.1 hd).1

theorem run_encode_append (hp : p c = true) (rest : Bytes) :
    run p (encode c ++ rest) = (encode c).length + run p rest := by
  rw [run_of_starts (decode?_encode_append c rest) hp, List.drop_left]

theorem run_ofChars_append {cs : List Char} (h : ∀ c ∈ cs, p c = true) (rest : Bytes) :
    run p (ofChars cs ++ rest) = (ofChars cs).length + run p rest := by
  induction cs with
  | nil => rw [ofChars, List.flatMap_nil, List.nil_append, List.length_nil, Nat.zero_add]
  | cons c cs ih =>
    obtain ⟨hc, hcs⟩ := List.forall_mem_cons.1 h
    rw [ofChars, List.flatMap_cons, ← ofChars, List.append_assoc, run_encode_append hc, ih hcs,
      List.length_append, Nat.add_assoc]

/-- At the front of a text are encoded the characters `cs`, which `p` holds of, and no further ones
that it holds of; `rest` stands behind them. -/
structure IsRun (p : Char → Bool) (text : Bytes) (cs : List Char) (rest : Bytes) : Prop where
  eq_append : text = ofChars cs ++ rest
  holds : ∀ c ∈ cs, p c = true
  ends : Ends p rest

theorem IsRun.of_ends (h : Ends p text) : IsRun p text [] text :=
  ⟨rfl, List.forall_mem_nil _, h⟩

theorem IsRun.append_left {cs : List Char} {rest : Bytes} (h : IsRun p text cs rest)
    {ds : List Char} (hds : ∀ c ∈ ds, p c = true) :
    IsRun p (ofChars ds ++ text) (ds ++ cs) rest where
  eq_append := by
    rw [h.eq_append, ofChars, ofChars, ofChars, List.flatMap_append, List.append_assoc]
  holds c hc := (List.mem_append.1 hc).elim (hds c) (h.holds c)
  ends := h.ends

/-- Every text starts with a run, if only of no characters. -/
theorem exists_isRun (p : Char → Bool) (text : Bytes) : ∃ cs rest, IsRun p text cs rest := by
  induction text using run_induction (p := p) with
  | stop text hs => exact ⟨[], text, .of_ends (starts_eq_false_iff.1 hs)⟩
  | step text c width hd hp ih =>
    obtain ⟨⟨behind, rfl⟩, rfl⟩ := decode?_eq_some_iff.1 hd
    rw [List.drop_left] at ih
    obtain ⟨cs, rest, hrun⟩ := ih
    have hrun' := hrun.append_left (List.forall_mem_singleton.2 hp)
    rw [ofChars, List.flatMap_singleton] at hrun'
    exact ⟨[c] ++ cs, rest, hrun'⟩

namespace IsRun

variable {cs : List Char} {rest : Bytes} (h : IsRun p text cs rest)

include h

theorem run_eq : run p text = (ofChars cs).length := by
  rw [h.eq_append, run_ofChars_append h.holds, run_of_not_starts (starts_eq_false_iff.2 h.ends),
    Nat.add_zero]

theorem drop_run : text.drop (run p text) = rest := by
  rw [h.run_eq, h.eq_append, List.drop_left]

theorem starts_iff : starts p text = true ↔ cs ≠ [] := by
  obtain ⟨rfl, holds, ends⟩ := h
  cases cs with
  | nil =>
    rw [ofChars, List.flatMap_nil, List.nil_append, starts_eq_false_iff.2 ends]
    exact ⟨fun h => (by cases h), fun h => absurd rfl h⟩
  | cons c cs =>
    rw [ofChars, List.flatMap_cons, List.append_assoc,
      starts_encode_append (holds c List.mem_cons_self)]
    exact ⟨fun _ => List.cons_ne_nil c cs, fun _ => rfl⟩

end IsRun

end Downstream.Utf8
