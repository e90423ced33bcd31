import Downstream.Toml.Spelling
import Downstream.Toml.Text

/-!
# Texts are read as they were written
-/

namespace Downstream.Toml

variable {c : Char} {s rest done : List Char}

/-- What follows does not start with a quote. -/
def NoQuote (rest : List Char) : Prop :=
  ∀ c ∈ rest.head?, c ≠ '"' ∧ c ≠ '\''

/-! ## Characters -/

/-- Control characters are among the first 128. -/
theorem toNat_lt_of_isControl (h : isControl c = true) : c.toNat < 128 := by
  rw [isControl, Bool.or_eq_true, Bool.and_eq_true, Bool.and_eq_true] at h
  rcases h with h | ⟨⟨h, -⟩, -⟩
  · rw [of_decide_eq_true h]
    decide
  · have hlt : c.toNat < ' '.toNat := of_decide_eq_true h
    have hspace : ' '.toNat = 32 := rfl
    omega

theorem isText_of_not_isControl (h : isControl c = false) (hline : c ≠ '\n') : isText c = true := by
  by_cases htab : c = '\t'
  · simp [isText, htab]
  · have hspace : ' ' ≤ c := by
      refine Char.not_lt.1 fun hlt => ?_
      simp [isControl, hlt, htab, hline] at h
    simp [isControl, isText, htab, hline] at h ⊢
    exact ⟨hspace, h.1⟩

/-- The escape of a control character denotes it. -/
theorem numbered?_escape (h : isControl c = true) :
    let n := c.toNat
    numbered? [hexDigit (n / 4096 % 16), hexDigit (n / 256 % 16), hexDigit (n / 16 % 16),
      hexDigit (n % 16)] = some c := by
  have hall : ∀ n < 128, numbered? [hexDigit (n / 4096 % 16), hexDigit (n / 256 % 16),
      hexDigit (n / 16 % 16), hexDigit (n % 16)] = some (Char.ofNat n) := by decide +kernel
  intro n
  rw [hall n (toNat_lt_of_isControl h), Char.ofNat_toNat]

/-! ## Escapes -/

/-- How a character stands in a text with escapes, for one line or for several: as it is, with a
letter, or with its number. -/
inductive Spells (severalLines : Bool) : List Char → Char → Prop where
  | itself {c : Char} (hquote : c ≠ '"') (hslash : c ≠ '\\') (hcontrol : isControl c = false)
      (hline : severalLines = false → c ≠ '\n') : Spells severalLines [c] c
  | short {e c : Char} (h : shortEscape? e = some c) : Spells severalLines ['\\', e] c
  | numbered {w x y z c : Char} (h : numbered? [w, x, y, z] = some c) :
      Spells severalLines ['\\', 'u', w, x, y, z] c

theorem Spells.exists_eq_cons {severalLines : Bool} {w : List Char} (h : Spells severalLines w c) :
    ∃ x more, w = x :: more ∧ x ≠ '"' ∧ x ≠ '\r' ∧ (x = '\n' → severalLines = true ∧ c = '\n') := by
  cases h with
  | itself hquote hslash hcontrol hline =>
    refine ⟨c, [], rfl, hquote, ?_, fun h => ⟨by simpa [h] using hline, h⟩⟩
    rintro rfl
    cases hcontrol
  | short _ => exact ⟨_, _, rfl, by decide, by decide, by simp⟩
  | numbered _ => exact ⟨_, _, rfl, by decide, by decide, by simp⟩

theorem spells_escapeOf (severalLines : Bool) (c : Char) :
    (escapeOf c = [] ∧ c ≠ '\\' ∧ isControl c = false) ∨ Spells severalLines (escapeOf c) c := by
  rw [escapeOf]
  split
  next h => exact .inr (.short (by rw [h]; rfl))
  split
  next h => exact .inr (.short (by rw [h]; rfl))
  split
  next h => exact .inr (.short (by rw [h]; rfl))
  split
  next h => exact .inr (.short (by rw [h]; rfl))
  split
  next h => exact .inr (.short (by rw [h]; rfl))
  next hslash =>
    split
    next h => exact .inr (.numbered (numbered?_escape h))
    next h => exact .inl ⟨rfl, hslash, by simpa using h⟩

/-- A double quote stands as it is in a short row of them, and everything else is spelled. -/
theorem escaped_cons (severalLines : Bool) (bound row : Nat) (c : Char) (s : List Char) :
    (c = '"' ∧ row < bound ∧
      escaped severalLines bound row (c :: s) = '"' :: escaped severalLines bound (row + 1) s) ∨
    ∃ w, Spells severalLines w c ∧
      escaped severalLines bound row (c :: s) = w ++ escaped severalLines bound 0 s := by
  rw [escaped]
  by_cases hquote : c = '"'
  · subst hquote
    rw [if_pos rfl]
    by_cases hlt : row < bound
    · exact .inl ⟨rfl, hlt, if_pos hlt⟩
    · exact .inr ⟨_, .short (e := '"') rfl, if_neg hlt⟩
  rw [if_neg hquote]
  by_cases hline : c = '\n'
  · subst hline
    rw [if_pos rfl]
    cases severalLines with
    | false => exact .inr ⟨_, .short (e := 'n') rfl, rfl⟩
    | true => exact .inr ⟨['\n'], .itself hquote (by decide) rfl nofun, rfl⟩
  rw [if_neg hline]
  right
  rcases spells_escapeOf severalLines c with ⟨he, hslash, hcontrol⟩ | hspells
  · rw [he]
    exact ⟨[c], .itself hquote hslash hcontrol fun _ => hline, rfl⟩
  · refine ⟨escapeOf c, hspells, ?_⟩
    cases he : escapeOf c with
    | nil => cases he ▸ hspells
    | cons x e => rfl

/-! ## Between double quotes -/

theorem basic?_spelled {w : List Char} (h : Spells false w c) :
    basic? done (w ++ rest) = basic? (c :: done) rest := by
  cases h with
  | itself hquote hslash hcontrol hline =>
    have htext := isText_of_not_isControl hcontrol (hline rfl)
    rw [List.cons_append, List.nil_append, basic?] <;> simp_all
  | short h =>
    rw [List.cons_append, List.cons_append, List.nil_append, basic?, h]
    · rintro _ _ _ rfl
      cases h
    · rintro _ _ _ _ _ rfl
      cases h
    · rintro _ _ _ _ _ _ _ _ _ rfl
      cases h
  | numbered h => simp only [List.cons_append, List.nil_append, basic?, h]

/-- A text with escapes is read up to the closing quote. -/
theorem basic?_escaped (s done rest : List Char) (row : Nat) :
    basic? done (escaped false 0 row s ++ '"' :: rest) = some (done.reverse ++ s, rest) := by
  induction s generalizing done row with
  | nil =>
    rw [List.append_nil]
    rfl
  | cons c s ih =>
    obtain ⟨-, hlt, -⟩ | ⟨w, hw, htext⟩ := escaped_cons false 0 row c s
    · exact absurd hlt (Nat.not_lt_zero row)
    · rw [htext, List.append_assoc, basic?_spelled hw, ih, List.reverse_cons, List.append_assoc]
      rfl

/-! ## Between single quotes -/

theorem literal?_append (hquote : '\'' ∉ s) (htext : ∀ c ∈ s, isText c = true) (rest : List Char) :
    literal? (s ++ '\'' :: rest) = some (s, rest) := by
  have hs : ∀ c ∈ s, (c != '\'') = true := fun c hc => by
    simpa using fun h : c = '\'' => hquote (h ▸ hc)
  rw [literal?, List.takeWhile_append_of_pos hs, List.dropWhile_append_of_pos hs]
  simpa using htext

/-! ## Between three double quotes -/

theorem multiLineBasic?_spelled {severalLines : Bool} {w : List Char}
    (h : Spells severalLines w c) :
    multiLineBasic? .none done (w ++ rest) = multiLineBasic? .none (c :: done) rest := by
  cases h with
  | itself hquote hslash hcontrol _ =>
    have hreturn : c ≠ '\r' := by
      rintro rfl
      cases hcontrol
    have htext : c = '\n' ∨ isText c = true :=
      (Decidable.em (c = '\n')).imp id (isText_of_not_isControl hcontrol)
    rw [List.cons_append, List.nil_append, multiLineBasic?] <;> simp_all
  | @short e _ h =>
    have hx : e ≠ 'x' := by
      rintro rfl
      cases h
    have hu : e ≠ 'u' := by
      rintro rfl
      cases h
    have hU : e ≠ 'U' := by
      rintro rfl
      cases h
    rw [List.cons_append, List.cons_append, List.nil_append]
    -- After a backslash and a carriage return a line feed counts, so the equations differ on it.
    by_cases hline : ∃ more, rest = '\n' :: more
    · obtain ⟨more, rfl⟩ := hline
      rw [multiLineBasic?, h] <;> simp_all
    · have hline : ∀ more, rest ≠ '\n' :: more := fun more hrest => hline ⟨more, hrest⟩
      rw [multiLineBasic?, h] <;> simp_all
  | numbered h =>
    simp only [List.cons_append, List.nil_append]
    rw [multiLineBasic?, h]
    nofun

theorem multiLineBasic?_quote (h : ∀ more, rest ≠ '"' :: '"' :: more) :
    multiLineBasic? .none done ('"' :: rest) = multiLineBasic? .none ('"' :: done) rest := by
  have htext : isText '"' = true := by decide
  rw [multiLineBasic?] <;> simp_all

/-- Up to two quotes before something else stand for themselves. -/
theorem multiLineBasic?_row (hquote : c ≠ '"') {row : Nat} (hrow : row ≤ 2) :
    multiLineBasic? .none done (List.replicate row '"' ++ c :: rest) =
      multiLineBasic? .none (List.replicate row '"' ++ done) (c :: rest) := by
  have hnone : ∀ more, c :: rest ≠ '"' :: '"' :: more := fun _ h => hquote (List.cons.inj h).1
  have hone : ∀ more, '"' :: c :: rest ≠ '"' :: '"' :: more := fun _ h =>
    hquote (List.cons.inj (List.cons.inj h).2).1
  match row, hrow with
  | 0, _ => rfl
  | 1, _ => exact multiLineBasic?_quote hnone
  | 2, _ => exact (multiLineBasic?_quote hone).trans (multiLineBasic?_quote hnone)

/-- Up to two quotes before the closing ones stand for themselves. -/
theorem multiLineBasic?_close (hrest : NoQuote rest) {row : Nat} (hrow : row ≤ 2) :
    multiLineBasic? .none done (List.replicate row '"' ++ '"' :: '"' :: '"' :: rest) =
      some (done.reverse ++ List.replicate row '"', rest) := by
  have hnone : ∀ more, rest ≠ '"' :: more := fun more h =>
    (hrest '"' (by simp [h])).1 rfl
  match row, hrow with
  | 0, _ => simp [multiLineBasic?, hnone]
  | 1, _ => simp [multiLineBasic?, List.replicate]
  | 2, _ => simp [multiLineBasic?, List.replicate]

/-- A text with escapes is read up to the closing quotes. Of the double quotes before it, `row` are
not yet read, since they may turn out to belong to the closing ones. -/
theorem multiLineBasic?_escaped (hrest : NoQuote rest) (s done : List Char) {row : Nat}
    (hrow : row ≤ 2) :
    multiLineBasic? .none done
        (List.replicate row '"' ++ (escaped true 2 row s ++ '"' :: '"' :: '"' :: rest)) =
      some (done.reverse ++ List.replicate row '"' ++ s, rest) := by
  induction s generalizing done row with
  | nil =>
    rw [escaped, List.nil_append, multiLineBasic?_close hrest hrow, List.append_nil]
  | cons c s ih =>
    obtain ⟨rfl, hlt, htext⟩ | ⟨w, hw, htext⟩ := escaped_cons true 2 row c s
    · have hone := ih done hlt
      rw [htext]
      simpa [List.replicate_succ'] using hone
    · have hnext := ih (c :: (List.replicate row '"' ++ done)) (Nat.zero_le 2)
      obtain ⟨x, more, rfl, hquote, -⟩ := hw.exists_eq_cons
      rw [htext, List.append_assoc, List.cons_append, multiLineBasic?_row hquote hrow,
        ← List.cons_append, multiLineBasic?_spelled hw]
      simpa using hnext

/-! ## Between three single quotes -/

theorem multiLineLiteral?_cons (hquote : c ≠ '\'') (hreturn : c ≠ '\r')
    (htext : c = '\n' ∨ isText c = true) :
    multiLineLiteral? done (c :: rest) = multiLineLiteral? (c :: done) rest := by
  rw [multiLineLiteral?] <;> simp_all

theorem multiLineLiteral?_quote (h : ∀ more, rest ≠ '\'' :: '\'' :: more) :
    multiLineLiteral? done ('\'' :: rest) = multiLineLiteral? ('\'' :: done) rest := by
  have htext : isText '\'' = true := by decide
  rw [multiLineLiteral?] <;> simp_all

theorem multiLineLiteral?_row (hquote : c ≠ '\'') {row : Nat} (hrow : row ≤ 2) :
    multiLineLiteral? done (List.replicate row '\'' ++ c :: rest) =
      multiLineLiteral? (List.replicate row '\'' ++ done) (c :: rest) := by
  have hnone : ∀ more, c :: rest ≠ '\'' :: '\'' :: more := fun _ h => hquote (List.cons.inj h).1
  have hone : ∀ more, '\'' :: c :: rest ≠ '\'' :: '\'' :: more := fun _ h =>
    hquote (List.cons.inj (List.cons.inj h).2).1
  match row, hrow with
  | 0, _ => rfl
  | 1, _ => exact multiLineLiteral?_quote hnone
  | 2, _ => exact (multiLineLiteral?_quote hone).trans (multiLineLiteral?_quote hnone)

theorem multiLineLiteral?_close (hrest : NoQuote rest) {row : Nat} (hrow : row ≤ 2) :
    multiLineLiteral? done (List.replicate row '\'' ++ '\'' :: '\'' :: '\'' :: rest) =
      some (done.reverse ++ List.replicate row '\'', rest) := by
  have hnone : ∀ more, rest ≠ '\'' :: more := fun more h =>
    (hrest '\'' (by simp [h])).2 rfl
  match row, hrow with
  | 0, _ => simp [multiLineLiteral?, hnone]
  | 1, _ => simp [multiLineLiteral?, List.replicate]
  | 2, _ => simp [multiLineLiteral?, List.replicate]

/-- A text without long rows of single quotes is read up to the closing ones. -/
theorem multiLineLiteral?_append (hrest : NoQuote rest) (s done : List Char)
    (hcontrol : s.any isControl = false) {row : Nat} (hrow : longestRow '\'' row s ≤ 2) :
    multiLineLiteral? done
        (List.replicate row '\'' ++ (s ++ '\'' :: '\'' :: '\'' :: rest)) =
      some (done.reverse ++ List.replicate row '\'' ++ s, rest) := by
  induction s generalizing done row with
  | nil =>
    rw [longestRow] at hrow
    rw [List.nil_append, multiLineLiteral?_close hrest hrow, List.append_nil]
  | cons c s ih =>
    rw [List.any_cons, Bool.or_eq_false_iff] at hcontrol
    rw [longestRow] at hrow
    by_cases hquote : c = '\''
    · subst hquote
      rw [if_pos rfl] at hrow
      simpa [List.replicate_succ'] using ih done hcontrol.2 hrow
    · rw [if_neg hquote, Nat.max_le] at hrow
      have hreturn : c ≠ '\r' := by
        rintro rfl
        cases hcontrol.1
      have htext : c = '\n' ∨ isText c = true :=
        (Decidable.em (c = '\n')).imp id (isText_of_not_isControl hcontrol.1)
      rw [List.cons_append, multiLineLiteral?_row hquote hrow.1,
        multiLineLiteral?_cons hquote hreturn htext]
      simpa using ih (c :: (List.replicate row '\'' ++ done)) hcontrol.2 hrow.2

/-! ## Profiles -/

theorem le_longestRow (q : Char) (row : Nat) (s : List Char) : row ≤ longestRow q row s := by
  induction s generalizing row with
  | nil => exact Nat.le_refl row
  | cons c s ih =>
    rw [longestRow]
    split
    · exact Nat.le_trans (Nat.le_succ row) (ih (row + 1))
    · exact Nat.le_max_left ..

theorem not_mem_of_longestRow_eq_zero {q : Char} (h : longestRow q 0 s = 0) : q ∉ s := by
  induction s with
  | nil => exact List.not_mem_nil
  | cons c s ih =>
    rw [longestRow] at h
    by_cases hc : c = q
    · rw [if_pos hc] at h
      have hle : 0 + 1 ≤ longestRow q (0 + 1) s := le_longestRow q (0 + 1) s
      omega
    · rw [if_neg hc, Nat.max_eq_zero_iff] at h
      exact fun hq => (List.mem_cons.1 hq).elim (fun hq => hc hq.symm) (ih h.2)

theorem isText_of_profile (hcontrol : (profile s).control = false) (hlines : (profile s).lines = false) :
    ∀ c ∈ s, isText c = true := by
  intro c hc
  have hcontrol : isControl c = false := by simpa using List.any_eq_false.1 hcontrol c hc
  exact isText_of_not_isControl hcontrol (by simpa using List.any_eq_false.1 hlines c hc)

/-! ## Quoted texts -/

/-- What a text with escapes starts with. -/
theorem of_mem_head?_escaped {severalLines : Bool} {bound row : Nat} {x : Char}
    (h : x ∈ (escaped severalLines bound row s).head?) :
    x ≠ '\r' ∧ (x = '\n' → '\n' ∈ s) ∧ (x = '"' → row < bound) := by
  cases s with
  | nil => cases h
  | cons c s =>
    obtain ⟨-, hlt, htext⟩ | ⟨w, hw, htext⟩ := escaped_cons severalLines bound row c s
    · obtain rfl : '"' = x := by simpa [htext] using h
      exact ⟨by decide, by simp, fun _ => hlt⟩
    · obtain ⟨y, more, rfl, hquote, hreturn, hline⟩ := hw.exists_eq_cons
      obtain rfl : y = x := by simpa [htext] using h
      exact ⟨hreturn, fun hx => by simp [(hline hx).2], fun hx => absurd hx hquote⟩

theorem quoted?_basic (hrest : NoQuote rest) (s : List Char) :
    quoted? (basic s ++ rest) = some (s, rest) := by
  have hread := basic?_escaped s [] rest 0
  have hthree : ∀ more, escaped false 0 0 s ++ '"' :: rest ≠ '"' :: '"' :: more := by
    intro more h
    cases he : escaped false 0 0 s with
    | nil =>
      rw [he] at h
      exact (hrest '"' (by simp [(List.cons.inj h).2])).1 rfl
    | cons c e =>
      rw [he] at h
      obtain rfl : c = '"' := (List.cons.inj h).1
      have hlt := (of_mem_head?_escaped (x := '"') (by rw [he]; rfl)).2.2 rfl
      omega
  have htext : basic s ++ rest = '"' :: (escaped false 0 0 s ++ '"' :: rest) := by simp [basic]
  rw [htext, quoted?] <;> simp_all

theorem quoted?_literal (hrest : NoQuote rest) (hquote : '\'' ∉ s)
    (htext : ∀ c ∈ s, isText c = true) : quoted? (literal s ++ rest) = some (s, rest) := by
  have hread := literal?_append hquote htext rest
  have hthree : ∀ more, s ++ '\'' :: rest ≠ '\'' :: '\'' :: more := by
    intro more h
    cases s with
    | nil => exact (hrest '\'' (by simp [(List.cons.inj h).2])).2 rfl
    | cons c s => exact hquote ((List.cons.inj h).1 ▸ List.mem_cons_self)
  have htext : literal s ++ rest = '\'' :: (s ++ '\'' :: rest) := by simp [literal]
  rw [htext, quoted?] <;> simp_all

/-- A text of several lines starts after the end of a line, if that is not its first character. -/
theorem newline?_opening (body : List Char) (hbody : (profile s).lines = false →
    ∀ c ∈ body.head?, c ≠ '\n' ∧ c ≠ '\r') :
    (newline? (opening (profile s) ++ body)).getD (opening (profile s) ++ body) = body := by
  cases hlines : (profile s).lines with
  | true => simp [opening, hlines, newline?]
  | false =>
    have hhead := hbody hlines
    cases body with
    | nil => simp [opening, hlines, newline?]
    | cons c body =>
      obtain ⟨hline, hreturn⟩ := hhead c rfl
      simp [opening, hlines, newline?, hline, hreturn]

theorem quoted?_multiLineBasic (hrest : NoQuote rest) (s : List Char) :
    quoted? (multiLineBasic (profile s) s ++ rest) = some (s, rest) := by
  have hread := multiLineBasic?_escaped hrest s [] (Nat.zero_le 2)
  have hopening := newline?_opening (s := s) (escaped true 2 0 s ++ '"' :: '"' :: '"' :: rest)
    fun hlines c hc => by
      rw [List.head?_append, Option.mem_def, Option.or_eq_some_iff] at hc
      rcases hc with hc | ⟨-, hc⟩
      · obtain ⟨hreturn, hline, -⟩ := of_mem_head?_escaped hc
        refine ⟨fun h => ?_, hreturn⟩
        exact List.any_eq_false.1 hlines _ (hline h) (by simp)
      · obtain rfl : '"' = c := by simpa using hc
        exact ⟨by decide, by decide⟩
  have htext : multiLineBasic (profile s) s ++ rest = '"' :: '"' :: '"' ::
      (opening (profile s) ++ (escaped true 2 0 s ++ '"' :: '"' :: '"' :: rest)) := by
    simp [multiLineBasic]
  rw [htext, quoted?, hopening]
  simpa using hread

theorem quoted?_multiLineLiteral (hrest : NoQuote rest) (hcontrol : (profile s).control = false)
    (hquotes : (profile s).singleQuotes ≤ 2) :
    quoted? (multiLineLiteral (profile s) s ++ rest) = some (s, rest) := by
  have hread := multiLineLiteral?_append hrest s [] hcontrol hquotes
  have hopening := newline?_opening (s := s) (s ++ '\'' :: '\'' :: '\'' :: rest)
    fun hlines c hc => by
      rw [List.head?_append, Option.mem_def, Option.or_eq_some_iff] at hc
      rcases hc with hc | ⟨-, hc⟩
      · have hmem : c ∈ s := List.mem_of_head? hc
        have hnone : isControl c = false := by simpa using List.any_eq_false.1 hcontrol c hmem
        refine ⟨by simpa using List.any_eq_false.1 hlines c hmem, ?_⟩
        rintro rfl
        cases hnone
      · obtain rfl : '\'' = c := by simpa using hc
        exact ⟨by decide, by decide⟩
  have htext : multiLineLiteral (profile s) s ++ rest = '\'' :: '\'' :: '\'' ::
      (opening (profile s) ++ (s ++ '\'' :: '\'' :: '\'' :: rest)) := by
    simp [multiLineLiteral]
  rw [htext, quoted?, hopening]
  simpa using hread

/-- **A text is read as it was written.** -/
theorem quoted?_writtenText (hrest : NoQuote rest) (s : String) :
    quoted? (writtenText s ++ rest) = some (s.toList, rest) := by
  simp only [writtenText]
  split
  · exact quoted?_basic hrest _
  split
  next h =>
    simp only [Bool.and_eq_true, Bool.not_eq_true', decide_eq_true_eq] at h
    exact quoted?_literal hrest (not_mem_of_longestRow_eq_zero h.1.2) (isText_of_profile h.1.1 h.2)
  split
  · exact quoted?_multiLineBasic hrest _
  split
  next h =>
    simp only [Bool.and_eq_true, Bool.not_eq_true', decide_eq_true_eq] at h
    exact quoted?_multiLineLiteral hrest h.1 h.2
  split
  · exact quoted?_multiLineBasic hrest _
  · exact quoted?_basic hrest _

end Downstream.Toml
