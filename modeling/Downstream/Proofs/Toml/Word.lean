import Downstream.Proofs.Toml.Key
import Downstream.Proofs.Toml.Moment
import Downstream.Proofs.Toml.Number

/-!
# Values without quotes are read as they were written

A word that denotes an item (`Denotes`) is read up to what cannot go on with it (`Closes`). Whole
numbers, numbers, truth values and moments are written as words that denote them.
-/

namespace Downstream.Toml

variable {word rest : List Char} {v : Item}

/-- What may follow a value: nothing that goes on with a word, a text, or, after a date, with a time
of day. -/
structure Closes (rest : List Char) : Prop where
  plain : StartsOutside isPlain rest
  quote : NoQuote rest
  time : ∀ c more, rest = ' ' :: c :: more → c.isDigit = false

/-- The word is read as an item. -/
structure Denotes (word : List Char) (v : Item) : Prop where
  plain : ∀ c ∈ word, isPlain c = true
  value : plain? word = some v

/-- A word is read up to what closes it. -/
theorem Denotes.takePlain? (h : Denotes word v) (hrest : Closes rest) :
    takePlain? (word ++ rest) = some (v, rest) := by
  have htake := takeWhile_append h.plain hrest.plain
  have hdrop := dropWhile_append h.plain hrest.plain
  simp only [Toml.takePlain?, htake, hdrop, h.value, Option.map_some]
  split
  next c more =>
    have hdigit : isDigit 10 c = false := by rw [isDigit_ten, hrest.time c more rfl]
    simp [hdigit]
  · rfl

theorem closes_cons {c : Char} (hplain : isPlain c = false) (hquote : c ≠ '"' ∧ c ≠ '\'')
    (hblank : c ≠ ' ') (rest : List Char) : Closes (c :: rest) where
  plain := by
    rintro _ ⟨⟩
    exact hplain
  quote := by
    rintro _ ⟨⟩
    exact hquote
  time := by
    rintro _ _ ⟨⟩
    exact absurd rfl hblank

theorem closes_space_cons {c : Char} (hc : c.isDigit = false) (rest : List Char) :
    Closes (' ' :: c :: rest) where
  plain := by
    rintro _ ⟨⟩
    decide
  quote := by
    rintro _ ⟨⟩
    decide
  time := by
    rintro _ _ ⟨⟩
    exact hc

/-! ## Words -/

theorem isPlain_of_isDigit {c : Char} (h : c.isDigit = true) : isPlain c = true := by
  simp [isPlain, isBare, Char.isAlphanum, h]

theorem isPlain_of_isDigits {ds : List Char} (h : IsDigits ds) : ∀ c ∈ ds, isPlain c = true :=
  fun c hc => isPlain_of_isDigit (h c hc)

theorem denotes_boolean (b : Bool) :
    Denotes (if b then "true".toList else "false".toList) (.boolean b) := by
  cases b with
  | true => exact ⟨List.all_eq_true.1 rfl, rfl⟩
  | false => exact ⟨List.all_eq_true.1 rfl, rfl⟩

/-- A word that does not start like a truth value is none. -/
theorem ne_boolean_of_head (ht : word.head? ≠ some 't') (hf : word.head? ≠ some 'f') :
    word ≠ ['t', 'r', 'u', 'e'] ∧ word ≠ ['f', 'a', 'l', 's', 'e'] := by
  constructor
  · rintro rfl
    exact ht rfl
  · rintro rfl
    exact hf rfl

theorem ne_boolean_of_isDigit {c : Char} (hc : c.isDigit = true) (cs : List Char) :
    c :: cs ≠ ['t', 'r', 'u', 'e'] ∧ c :: cs ≠ ['f', 'a', 'l', 's', 'e'] := by
  refine ne_boolean_of_head ?_ ?_ <;> rintro ⟨⟩ <;> cases hc

/-! ### Moments -/

theorem isPlain_of_mem_date (d : Date) : ∀ c ∈ d.text, isPlain c = true := by
  have hdigits := fun width n => isPlain_of_isDigits (isDigits_paddedDigits width n)
  simp only [Date.text, List.forall_mem_append, List.forall_mem_cons]
  exact ⟨⟨hdigits _ _, by decide, hdigits _ _⟩, by decide, hdigits _ _⟩

theorem isPlain_of_mem_time (t : Time) : ∀ c ∈ t.text, isPlain c = true := by
  have hdigits := fun width n => isPlain_of_isDigits (isDigits_paddedDigits width n)
  have hfraction := isPlain_of_isDigits
    (Time.number_trimZeros (isDigits_paddedDigits 9 t.nanosecond.val)).1
  simp only [Time.text, List.forall_mem_append, List.forall_mem_cons]
  refine ⟨⟨⟨hdigits _ _, by decide, hdigits _ _⟩, by decide, hdigits _ _⟩, ?_⟩
  split
  · exact List.forall_mem_nil _
  · exact List.forall_mem_cons.2 ⟨by decide, hfraction⟩

theorem isPlain_of_mem_offset (o : Offset) : ∀ c ∈ o.text, isPlain c = true := by
  have hdigits := fun width n => isPlain_of_isDigits (isDigits_paddedDigits width n)
  cases o with
  | universal => exact List.forall_mem_singleton.2 (by decide)
  | minutes n valid =>
    simp only [Offset.text, List.forall_mem_append, List.forall_mem_cons]
    exact ⟨by split <;> decide, hdigits _ _, by decide, hdigits _ _⟩

theorem isPlain_of_mem_moment (m : Moment) : ∀ c ∈ m.text, isPlain c = true := by
  cases m <;> simp only [Moment.text, List.forall_mem_append, List.forall_mem_cons]
  · exact isPlain_of_mem_date _
  · exact isPlain_of_mem_time _
  · exact ⟨isPlain_of_mem_date _, by decide, isPlain_of_mem_time _⟩
  · exact ⟨⟨isPlain_of_mem_date _, by decide, isPlain_of_mem_time _⟩, isPlain_of_mem_offset _⟩

theorem exists_paddedDigits_eq_cons (width n : Nat) :
    ∃ c cs, paddedDigits width n = c :: cs ∧ c.isDigit = true := by
  have hne : paddedDigits width n ≠ [] := by simp [paddedDigits, Nat.toDigits_ne_nil]
  obtain ⟨c, cs, hcs⟩ := List.exists_cons_of_ne_nil hne
  exact ⟨c, cs, hcs, isDigits_paddedDigits width n c (by simp [hcs])⟩

/-- A moment starts with a digit. -/
theorem exists_moment_eq_cons (m : Moment) : ∃ c cs, m.text = c :: cs ∧ c.isDigit = true := by
  have hdate : ∀ d : Date, ∃ c cs, d.text = c :: cs ∧ c.isDigit = true := fun d => by
    obtain ⟨c, cs, hcs, hc⟩ := exists_paddedDigits_eq_cons 4 d.year
    exact ⟨c, _, by rw [Date.text, hcs]; rfl, hc⟩
  cases m with
  | date d => exact hdate d
  | time t =>
    obtain ⟨c, cs, hcs, hc⟩ := exists_paddedDigits_eq_cons 2 t.hour.val
    exact ⟨c, _, by rw [Moment.text, Time.text, hcs]; rfl, hc⟩
  | dateTime d t =>
    obtain ⟨c, cs, hcs, hc⟩ := hdate d
    exact ⟨c, _, by rw [Moment.text, hcs]; rfl, hc⟩
  | offsetDateTime d t o =>
    obtain ⟨c, cs, hcs, hc⟩ := hdate d
    exact ⟨c, _, by rw [Moment.text, hcs]; rfl, hc⟩

theorem denotes_moment (m : Moment) : Denotes m.text (.moment m) where
  plain := isPlain_of_mem_moment m
  value := by
    obtain ⟨c, cs, hcs, hc⟩ := exists_moment_eq_cons m
    have hread := m.read?_text
    rw [hcs] at hread ⊢
    obtain ⟨htrue, hfalse⟩ := ne_boolean_of_isDigit hc cs
    simp [plain?, htrue, hfalse, hread]

/-! ### Numbers -/

/-- A word of digits, perhaps with a sign and a point. -/
theorem signText_append (negative : Bool) {ds : List Char}
    (h : ∀ c ∈ ds, c.isDigit = true ∨ c = '.') :
    (∀ c ∈ Number.signText negative ++ ds, isPlain c = true) ∧
      Number.signText negative ++ ds ≠ ['t', 'r', 'u', 'e'] ∧
      Number.signText negative ++ ds ≠ ['f', 'a', 'l', 's', 'e'] ∧
      Moment.read? (Number.signText negative ++ ds) = none := by
  have hne : ∀ c ∈ ds, isPlain c = true ∧ c ≠ ':' ∧ c ≠ '-' ∧ c ≠ 't' ∧ c ≠ 'f' := by
    intro c hc
    rcases h c hc with hdigit | rfl
    · refine ⟨isPlain_of_isDigit hdigit, ?_, ?_, ?_, ?_⟩ <;> rintro rfl <;> cases hdigit
    · decide
  have hdate : StartsOutside Char.isDigit (Number.signText negative ++ ds) ∨
      '-' ∉ Number.signText negative ++ ds := by
    cases negative with
    | true => exact .inl (by rintro _ ⟨⟩; rfl)
    | false => exact .inr fun hdash => (hne _ (by simpa [Number.signText] using hdash)).2.2.1 rfl
  have hmem : ∀ c ∈ Number.signText negative ++ ds, c = '-' ∨ c ∈ ds := by
    intro c hc
    refine (List.mem_append.1 hc).imp (fun hc => ?_) id
    cases negative with
    | true => exact List.mem_singleton.1 hc
    | false => cases hc
  have hall : ∀ c ∈ Number.signText negative ++ ds,
      isPlain c = true ∧ c ≠ ':' ∧ c ≠ 't' ∧ c ≠ 'f' := by
    intro c hc
    rcases hmem c hc with rfl | hc
    · decide
    · obtain ⟨hplain, hcolon, -, ht, hf⟩ := hne c hc
      exact ⟨hplain, hcolon, ht, hf⟩
  have hboolean := ne_boolean_of_head
    (fun ht => (hall _ (List.mem_of_head? ht)).2.2.1 rfl)
    (fun hf => (hall _ (List.mem_of_head? hf)).2.2.2 rfl)
  exact ⟨fun c hc => (hall c hc).1, hboolean.1, hboolean.2,
    Moment.read?_eq_none (fun hc => (hall _ hc).2.1 rfl) hdate⟩

theorem denotes_integer (n : Int) : Denotes (writtenInteger n) (.integer n) := by
  have hread := Number.integer?_writtenInteger n
  rw [Number.writtenInteger_eq] at hread ⊢
  obtain ⟨hplain, htrue, hfalse, hmoment⟩ := signText_append (decide (n < 0))
    fun c hc => .inl (isDigits_toDigits n.natAbs c hc)
  exact ⟨hplain, by simp [plain?, htrue, hfalse, hmoment, hread]⟩

theorem denotes_float (x : Binary64) : Denotes x.text.toList (.float x.numeral) := by
  cases x with
  | finite negative size =>
    obtain ⟨hinteger, hfloat⟩ := (Binary64.finite negative size).float?_text
    obtain ⟨whole, fraction, hsplits, htext⟩ := Binary64.exists_text_finite_eq negative size
    rw [htext] at hinteger hfloat ⊢
    obtain ⟨hplain, htrue, hfalse, hmoment⟩ := signText_append negative
      (show ∀ c ∈ whole ++ '.' :: fraction, c.isDigit = true ∨ c = '.' by
        simp only [List.forall_mem_append, List.forall_mem_cons]
        exact ⟨fun c hc => .inl (hsplits.isWhole.digits c hc), .inr trivial,
          fun c hc => .inl (hsplits.isDigits c hc)⟩)
    exact ⟨hplain, by simp [plain?, htrue, hfalse, hmoment, hinteger, hfloat]⟩
  | infinite negative =>
    cases negative with
    | true => exact ⟨List.all_eq_true.1 rfl, rfl⟩
    | false => exact ⟨List.all_eq_true.1 rfl, rfl⟩
  | nan => exact ⟨List.all_eq_true.1 rfl, rfl⟩

end Downstream.Toml
