import Downstream.Proofs.Text.Encode

/-!
# Between characters

A place of a text is inside a character if some of the character's bytes stand before it and some
behind it (`Inside`). The text may be any bytes: a character counts wherever all its bytes stand. No
place is inside a character where a byte follows that continues none (`not_inside_of_fresh`), or where
characters end (`not_inside_of_eq_append`). A text of characters that is cut at such places falls into
texts of characters (`IsText.slice`).
-/

namespace Downstream.Utf8

variable {text u v : Bytes} {c : Char} {cs : List Char} {place first : Nat}

/-! ## Inside characters -/

/-- The bytes of a character stand on both sides of a place. -/
def Inside (text : Bytes) (place : Nat) : Prop :=
  ∃ first c, encode c <+: text.drop first ∧ first < place ∧ place < first + (encode c).length

/-- No character starts with a byte that continues one. -/
theorem decode?_of_continues {b : UInt8} (h : continues b = true) (rest : Bytes) :
    decode? (b :: rest) = none := by
  obtain ⟨x, hx⟩ := Option.isSome_iff_exists.1 h
  obtain ⟨hlt, hb⟩ := continuation?_eq_some_iff.1 hx
  have htoNat : b.toNat = x + 0x80 := hb ▸ toNat_ofNat_of_lt (by omega)
  have hlow : ¬b < 0x80 := by
    rw [UInt8.lt_iff_toNat_lt, htoNat]
    exact Nat.not_lt.2 (Nat.le_add_left _ _)
  have hhigh : b < 0xC0 := by
    rw [UInt8.lt_iff_toNat_lt, htoNat]
    exact Nat.add_lt_add_right hlt 0x80
  simp [decode?, hlow, hhigh]

theorem fresh_of_encode (h : encode c <+: text) : Fresh text := by
  obtain ⟨rest, rfl⟩ := h
  intro b hb hcont
  obtain ⟨behind, hbehind⟩ := List.head?_eq_some_iff.1 hb
  have hdecode := decode?_encode_append c rest
  rw [hbehind, decode?_of_continues hcont] at hdecode
  cases hdecode

theorem not_inside_of_fresh (h : Fresh (text.drop place)) : ¬Inside text place := by
  rintro ⟨first, c, ⟨rest, hrest⟩, hlt, hlt'⟩
  obtain ⟨a, tail, hencode, htail⟩ := exists_encode_eq_cons c
  obtain ⟨k, rfl⟩ : ∃ k, place = first + (k + 1) := ⟨place - first - 1, by omega⟩
  rw [hencode, List.length_cons] at hlt'
  have hk : k < tail.length := by omega
  rw [← List.drop_drop, ← hrest, hencode, List.cons_append, List.drop_succ_cons,
    List.drop_append_of_le_length (Nat.le_of_lt hk), List.drop_eq_getElem_cons hk] at h
  exact h tail[k] rfl (htail _ (List.getElem_mem hk))

/-- No character has bytes on both sides of the place where another one ends. -/
theorem not_inside_of_encode (h : encode c <+: text.drop first) :
    ¬Inside text (first + (encode c).length) := by
  rintro ⟨first', c', h', hlt, hlt'⟩
  -- Characters that overlap start at the same place, as no character starts inside another one.
  rcases Nat.lt_trichotomy first' first with hbefore | rfl | hbehind
  · exact not_inside_of_fresh (fresh_of_encode h) ⟨first', c', h', hbefore, by omega⟩
  · have hdecode := decode?_eq_some_iff.2 ⟨h, rfl⟩
    have hdecode' := decode?_eq_some_iff.2 ⟨h', rfl⟩
    rw [hdecode, Option.some.injEq, Prod.mk.injEq] at hdecode'
    obtain ⟨rfl, -⟩ := hdecode'
    omega
  · exact not_inside_of_fresh (fresh_of_encode h') ⟨first, c, h, hbehind, by omega⟩

/-- No place is inside a character where characters end. -/
theorem not_inside_of_eq_append (h : text.drop first = u ++ (ofChars cs ++ v)) (hne : cs ≠ []) :
    ¬Inside text (first + u.length + (ofChars cs).length) := by
  obtain ⟨init, c, rfl⟩ := (List.eq_nil_or_concat cs).resolve_left hne
  have hsplit : ofChars (init.concat c) = ofChars init ++ encode c := by
    rw [ofChars, List.concat_eq_append, List.flatMap_append, List.flatMap_singleton, ofChars]
  rw [hsplit, List.length_append, ← Nat.add_assoc]
  refine not_inside_of_encode ⟨v, ?_⟩
  rw [hsplit] at h
  rw [← List.drop_drop, ← List.drop_drop, h, List.drop_left, List.append_assoc, List.drop_left]

/-! ## Texts of characters -/

/-- The bytes encode characters. -/
def IsText (text : Bytes) : Prop :=
  ∃ cs, text = ofChars cs

theorem isText_ofString (s : String) : IsText (ofString s) := ⟨s.toList, rfl⟩

theorem IsText.exists_string (h : IsText text) : ∃ s : String, text = ofString s := by
  obtain ⟨cs, rfl⟩ := h
  exact ⟨String.ofList cs, by rw [ofString, String.toList_ofList]⟩

theorem IsText.append (hu : IsText u) (hv : IsText v) : IsText (u ++ v) := by
  obtain ⟨cs, rfl⟩ := hu
  obtain ⟨ds, rfl⟩ := hv
  exact ⟨cs ++ ds, List.flatMap_append.symm⟩

theorem Inside.append_left (h : Inside text place) (u : Bytes) :
    Inside (u ++ text) (u.length + place) := by
  obtain ⟨first, c, hpre, hlt, hlt'⟩ := h
  refine ⟨u.length + first, c, ?_, by omega, by omega⟩
  rwa [← List.drop_drop, List.drop_left]

theorem Inside.of_take {n : Nat} (h : Inside (text.take n) place) : Inside text place := by
  obtain ⟨first, c, hpre, hlt⟩ := h
  refine ⟨first, c, hpre.trans ?_, hlt⟩
  rw [List.drop_take]
  exact List.take_prefix _ _

/-- **A text of characters can be cut between characters.** -/
theorem IsText.cut (h : IsText text) (hplace : ¬Inside text place) :
    IsText (text.take place) ∧ IsText (text.drop place) := by
  obtain ⟨cs, rfl⟩ := h
  induction cs generalizing place with
  | nil => exact ⟨⟨[], List.take_nil⟩, ⟨[], List.drop_nil⟩⟩
  | cons c cs ih =>
    rw [ofChars, List.flatMap_cons, ← ofChars] at hplace ⊢
    rcases Nat.eq_zero_or_pos place with rfl | hpos
    · exact ⟨⟨[], List.take_zero⟩, ⟨c :: cs, List.drop_zero⟩⟩
    · have hle : (encode c).length ≤ place := Nat.le_of_not_lt fun hlt =>
        hplace ⟨0, c, List.prefix_append _ _, hpos, by omega⟩
      obtain ⟨rest, rfl⟩ := Nat.exists_eq_add_of_le hle
      obtain ⟨htake, hdrop⟩ := ih fun hin => hplace (hin.append_left _)
      rw [List.take_length_add_append, ← List.drop_drop, List.drop_left]
      exact ⟨IsText.append ⟨[c], (List.flatMap_singleton encode c).symm⟩ htake, hdrop⟩

/-- What stands between two places between characters is a text of characters. -/
theorem IsText.slice (h : IsText text) {start stop : Nat} (hstart : ¬Inside text start)
    (hstop : ¬Inside text stop) : IsText ((text.drop start).take (stop - start)) := by
  rw [← List.drop_take]
  exact ((h.cut hstop).1.cut fun hin => hstart hin.of_take).2

end Downstream.Utf8
