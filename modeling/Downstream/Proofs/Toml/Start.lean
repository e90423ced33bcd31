import Downstream.Proofs.Toml.Key
import Downstream.Proofs.Toml.Value
import Downstream.Proofs.Toml.Word

/-!
# How written values start

A written value starts with a character of a word, a quote or an opening bracket
(`Value.exists_inline_eq_cons`), so the gap before it ends there (`Value.skipGap?_inline`). A value
that starts with no bracket is a text (`value?_writtenText`) or a word (`Denotes.value?`).
-/

namespace Downstream.Toml

variable {s rest : List Char} {v : Value}

/-! ## Gaps -/

/-- Whether a character goes on with the gap before a word. -/
def startsGap (c : Char) : Bool :=
  isBlank c || c = '\n' || c = '\r' || c = '#'

theorem skipGap?_of_startsOutside (h : StartsOutside startsGap s) : skipGap? false s = some s := by
  cases s with
  | nil => rfl
  | cons c s =>
    have hc : (isBlank c = false ∧ c ≠ '\n' ∧ c ≠ '\r') ∧ c ≠ '#' := by
      simpa [startsGap, and_assoc] using h c rfl
    rw [skipGap?, if_neg (by simp [hc]), if_neg hc.2]
    rintro _ rfl
    exact absurd rfl hc.1.2.2

theorem skipGap?_blank_cons {c : Char} (h : isBlank c = true) (s : List Char) :
    skipGap? false (c :: s) = skipGap? false s := by
  rw [skipGap?, if_pos (.inr h)]
  rintro _ rfl
  cases h

@[simp]
theorem skipGap?_space_cons (s : List Char) : skipGap? false (' ' :: s) = skipGap? false s :=
  skipGap?_blank_cons rfl s

@[simp]
theorem skipGap?_newline_cons (s : List Char) : skipGap? false ('\n' :: s) = skipGap? false s := by
  simp [skipGap?]

/-! ## How a written value starts -/

/-- Whether a value in a line can start with a character. -/
def startsValue (c : Char) : Bool :=
  isPlain c || c = '"' || c = '\'' || c = '[' || c = '\x7b'

theorem quoted?_eq_none (h : ∀ c ∈ s.head?, c ≠ '"' ∧ c ≠ '\'') : quoted? s = none := by
  cases s with
  | nil => rfl
  | cons c s =>
    obtain ⟨hdouble, hsingle⟩ := h c rfl
    rw [quoted?] <;> rintro _ ⟨⟩ <;> contradiction

theorem exists_writtenText_eq_cons (t : String) :
    ∃ c cs, writtenText t = c :: cs ∧ (c = '"' ∨ c = '\'') := by
  have hread := quoted?_writtenText (show NoQuote [] from nofun) t
  rw [List.append_nil] at hread
  cases hs : writtenText t with
  | nil => simp [hs, quoted?] at hread
  | cons c cs =>
    refine ⟨c, cs, rfl, Decidable.byContradiction fun hc => ?_⟩
    rw [not_or] at hc
    rw [hs, quoted?_eq_none (by rintro _ ⟨⟩; exact hc)] at hread
    cases hread

theorem Denotes.exists_eq_cons {word : List Char} {i : Item} (h : Denotes word i) :
    ∃ c cs, word = c :: cs ∧ isPlain c = true := by
  cases word with
  | nil => cases h.value
  | cons c cs => exact ⟨c, cs, rfl, h.plain c List.mem_cons_self⟩

theorem Value.exists_inline_eq_cons (v : Value) :
    ∃ c cs, v.inline = c :: cs ∧ startsValue c = true := by
  have hword : ∀ {word i}, Denotes word i → ∃ c cs, word = c :: cs ∧ startsValue c = true := by
    intro word i h
    obtain ⟨c, cs, hcs, hc⟩ := h.exists_eq_cons
    exact ⟨c, cs, hcs, by simp [startsValue, hc]⟩
  cases v with
  | string t =>
    obtain ⟨c, cs, hcs, hc⟩ := exists_writtenText_eq_cons t
    exact ⟨c, cs, hcs, by rcases hc with rfl | rfl <;> decide⟩
  | integer n => exact hword (denotes_integer n.toInt)
  | float x => exact hword (denotes_float x)
  | boolean b => exact hword (denotes_boolean b)
  | moment m => exact hword (denotes_moment m)
  | array values =>
    rw [Value.inline]
    fun_cases writtenArray (Value.inlineItems values)
    all_goals exact ⟨'[', _, rfl, by decide⟩
  | table entries =>
    rw [Value.inline]
    fun_cases writtenFields (Value.inlineFields entries)
    all_goals exact ⟨'\x7b', _, rfl, by decide⟩

theorem Value.startsOutside_inline {q : Char → Bool} (hq : ∀ c, startsValue c = true → q c = false)
    (v : Value) (rest : List Char) : StartsOutside q (v.inline ++ rest) := by
  obtain ⟨c, cs, hcs, hc⟩ := v.exists_inline_eq_cons
  rw [hcs]
  rintro _ ⟨⟩
  exact hq c hc

theorem startsGap_of_startsValue {c : Char} (h : startsValue c = true) : startsGap c = false := by
  refine Bool.eq_false_iff.2 fun hgap => ?_
  simp only [startsGap, isBlank, Bool.or_eq_true, decide_eq_true_eq] at hgap
  rcases hgap with (((rfl | rfl) | rfl) | rfl) | rfl <;> revert h <;> decide

theorem startsGap_of_startsKey {c : Char} (h : startsKey c = true) : startsGap c = false := by
  refine startsGap_of_startsValue ?_
  simp only [startsKey, startsValue, isPlain, Bool.or_eq_true] at h ⊢
  rcases h with (h | h) | h <;> simp [h]

@[simp]
theorem Value.skipGap?_inline (v : Value) (rest : List Char) :
    skipGap? false (v.inline ++ rest) = some (v.inline ++ rest) :=
  skipGap?_of_startsOutside (v.startsOutside_inline (fun _ => startsGap_of_startsValue) rest)

@[simp]
theorem skipGap?_writtenKey (k : String) (rest : List Char) :
    skipGap? false (writtenKey k ++ rest) = some (writtenKey k ++ rest) :=
  skipGap?_of_startsOutside (startsOutside_of_startsKey (fun _ => startsGap_of_startsKey) k rest)

/-! ## Words and texts -/

/-- A value that starts with no bracket is a text or a word. -/
theorem value?_eq (depth : Nat) (hs : ∀ c ∈ s.head?, c ≠ '[' ∧ c ≠ '\x7b') :
    value? depth s = match quoted? s with
      | some (t, rest) => some (.string (String.ofList t), rest)
      | none => takePlain? s := by
  cases depth with
  | zero => rfl
  | succ depth =>
    unfold value?
    split
    · exact absurd rfl (hs _ rfl).1
    · exact absurd rfl (hs _ rfl).2
    · rfl

theorem Denotes.value? {word : List Char} {i : Item} (h : Denotes word i) (depth : Nat)
    (hrest : Closes rest) : value? depth (word ++ rest) = some (i, rest) := by
  obtain ⟨c, cs, hcs, hc⟩ := h.exists_eq_cons
  have hne : ∀ d : Char, isPlain d = false → c ≠ d := by
    rintro d hd rfl
    exact Bool.false_ne_true (hd.symm.trans hc)
  have hhead : ∀ d ∈ (word ++ rest).head?, d = c := by
    rw [hcs]
    rintro _ ⟨⟩
    rfl
  rw [value?_eq, quoted?_eq_none, h.takePlain? hrest]
  · intro d hd
    exact hhead d hd ▸ ⟨hne _ (by decide), hne _ (by decide)⟩
  · intro d hd
    exact hhead d hd ▸ ⟨hne _ (by decide), hne _ (by decide)⟩

theorem value?_writtenText (depth : Nat) (t : String) (hrest : NoQuote rest) :
    value? depth (writtenText t ++ rest) = some (.string t, rest) := by
  rw [value?_eq, quoted?_writtenText hrest]
  · simp only [String.ofList_toList]
  obtain ⟨c, cs, hcs, hc⟩ := exists_writtenText_eq_cons t
  rw [hcs]
  rintro _ ⟨⟩
  rcases hc with rfl | rfl <;> decide

end Downstream.Toml
