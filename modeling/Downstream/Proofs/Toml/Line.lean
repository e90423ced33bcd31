import Downstream.Proofs.Toml.Inline
import Downstream.Toml.Writer

/-!
# Lines are read as they were written

A written line is its text with the line that it spells, and whether the line is within the limits of
the reader. The reader takes the text for the line or refuses it (`Word.IsRead`), whatever lines came
before and whatever follows. A key with its value is read (`isRead_entry`), a header is read
(`isRead_header`), and so are lines one after the other (`lines?_words`).
-/

namespace Downstream.Toml

variable {s rest : List Char} {l : Line}

/-- A line as it is written. -/
structure Word where
  text : List Char
  line : Line
  /-- Whether the line has neither too many keys nor too many brackets. -/
  fits : Bool

/-- The reader takes the text for the line and goes on with what follows, or refuses the text. -/
def Word.IsRead (w : Word) : Prop :=
  ∀ fuel done rest, lines? (fuel + 1) done (w.text ++ rest) =
    if w.fits then lines? fuel (w.line :: done) rest else none

theorem lines?_nil (fuel : Nat) (done : List Line) :
    lines? (fuel + 1) done [] = some done.reverse :=
  rfl

theorem Word.IsRead.text_ne_nil {w : Word} (h : w.IsRead) : w.text ≠ [] := by
  intro hnil
  have hlines := h 1 [] []
  rw [hnil, List.append_nil, lines?_nil, lines?_nil] at hlines
  split at hlines <;> simp at hlines

/-- **Lines are read one after the other**, unless one is beyond the limits. -/
theorem lines?_words {words : List Word} (h : ∀ w ∈ words, w.IsRead) {fuel : Nat}
    (hfuel : words.length < fuel) (done : List Line) :
    lines? fuel done (words.flatMap Word.text) =
      if ∀ w ∈ words, w.fits then some (done.reverse ++ words.map Word.line) else none := by
  induction words generalizing fuel done with
  | nil =>
    obtain ⟨fuel, rfl⟩ : ∃ n, fuel = n + 1 := ⟨fuel - 1, by simp at hfuel; omega⟩
    simp [lines?_nil]
  | cons w words ih =>
    obtain ⟨fuel, rfl⟩ : ∃ n, fuel = n + 1 := ⟨fuel - 1, by simp at hfuel; omega⟩
    obtain ⟨hw, hwords⟩ := List.forall_mem_cons.1 h
    rw [List.flatMap_cons, hw, ih hwords (by simpa using hfuel)]
    cases hfits : w.fits <;> simp [hfits]

theorem length_le_flatMap_text {words : List Word} (h : ∀ w ∈ words, w.IsRead) :
    words.length ≤ (words.flatMap Word.text).length := by
  induction words with
  | nil => simp
  | cons w words ih =>
    obtain ⟨hw, hwords⟩ := List.forall_mem_cons.1 h
    have hpos := List.length_pos_iff.2 hw.text_ne_nil
    have hmore := ih hwords
    simp only [List.flatMap_cons, List.length_append, List.length_cons]
    omega

/-- A line is read after a gap, up to the end of the line. -/
theorem lines?_line {c : Char} {cs : List Char} {fits : Prop} [Decidable fits]
    (hgap : skipGap? false s = some (c :: cs))
    (hline : line? (c :: cs) = if fits then some (l, '\n' :: rest) else none) (fuel : Nat)
    (done : List Line) :
    lines? (fuel + 1) done s = if fits then lines? fuel (l :: done) rest else none := by
  have hend : endLine? ('\n' :: rest) = some rest := rfl
  by_cases h : fits
  · simp only [lines?, hgap, hline, h, if_true, hend, Option.bind_eq_bind, Option.bind_some]
  · simp only [lines?, hgap, hline, h, if_false, Option.bind_eq_bind, Option.bind_none]

/-! ## Entries -/

/-- What a line says of a key and its value. -/
def entryOf (e : String × Value) : Entry :=
  ⟨[], e.1, e.2.item⟩

/-- A key with its value, as a written line. -/
def entryWord (e : String × Value) : Word where
  text := writtenEntry e.1 e.2.inline
  line := .entry (entryOf e)
  fits := e.2.depth ≤ depthLimit

theorem skipBlanks_space_inline (v : Value) (rest : List Char) :
    skipBlanks (' ' :: (v.inline ++ rest)) = v.inline ++ rest := by
  have hout : StartsOutside isBlank (v.inline ++ rest) := v.startsOutside_inline (fun c hc => by
    have hgap := startsGap_of_startsValue hc
    simp only [startsGap, Bool.or_eq_false_iff] at hgap
    exact hgap.1.1.1) rest
  exact hout.dropWhile

theorem entry?_writtenKey {e : String × Value} (hv : e.2.Sound) (hrest : Closes rest) :
    entry? (writtenKey e.1 ++ ' ' :: '=' :: ' ' :: (e.2.inline ++ rest)) =
      if e.2.depth ≤ depthLimit then some (.entry (entryOf e), rest) else none := by
  simp only [ entry?, dottedKey?_writtenKey, takeChar_cons, skipBlanks_space_inline,
    value?_inline hv depthLimit rest hrest, Option.bind_eq_bind, Option.bind_some]
  split <;> rfl

theorem line?_writtenKey (k : String) (rest : List Char) :
    line? (writtenKey k ++ rest) = entry? (writtenKey k ++ rest) := by
  obtain ⟨c, cs, hcs, hc⟩ := exists_writtenKey_eq_cons k
  have hne : c ≠ '[' := by
    rintro rfl
    exact absurd hc (by decide)
  rw [hcs, List.cons_append, line?] <;> simp [hne]

/-- **A key with its value is read.** -/
theorem isRead_entry {e : String × Value} (hv : e.2.Sound) : (entryWord e).IsRead := by
  intro fuel done rest
  have htext : (entryWord e).text ++ rest =
      writtenKey e.1 ++ ' ' :: '=' :: ' ' :: (e.2.inline ++ '\n' :: rest) := by
    simp [entryWord, writtenEntry]
  have hgap := skipGap?_writtenKey e.1 (' ' :: '=' :: ' ' :: (e.2.inline ++ '\n' :: rest))
  have hline := line?_writtenKey e.1 (' ' :: '=' :: ' ' :: (e.2.inline ++ '\n' :: rest))
  obtain ⟨c, cs, hcs, -⟩ := exists_writtenKey_eq_cons e.1
  rw [entry?_writtenKey hv (closes_newline rest)] at hline
  rw [hcs] at hgap hline
  rw [htext, hcs]
  simpa [entryWord] using lines?_line hgap hline fuel done

/-! ## Headers -/

/-- A header as it is written. -/
def Header.text (h : Header) : List Char :=
  if h.isElement then ['\n', '[', '['] ++ writtenPath (h.path ++ [h.key]) ++ [']', ']', '\n']
  else ['\n', '['] ++ writtenPath (h.path ++ [h.key]) ++ [']', '\n']

/-- A header, as a written line. -/
def headerWord (h : Header) : Word where
  text := h.text
  line := .header h
  fits := h.path.length < depthLimit

theorem dottedKey?_header (path : List String) (k : String) (rest : List Char) :
    dottedKey? depthLimit (writtenPath (path ++ [k]) ++ ']' :: rest) =
      if path.length < depthLimit then some ((path, k), ']' :: rest) else none := by
  split
  next hlimit => exact dottedKey?_writtenPath hlimit k (by rintro _ ⟨⟩; rfl) nofun
  next hlimit => exact dottedKey?_writtenPath_eq_none (Nat.le_of_not_lt hlimit) k _

theorem exists_writtenPath_eq_cons (path : List String) (k : String) :
    ∃ c cs, writtenPath (path ++ [k]) = c :: cs ∧ startsKey c = true := by
  rw [writtenPath_append_singleton]
  cases path with
  | nil => exact exists_writtenKey_eq_cons k
  | cons l path =>
    obtain ⟨c, cs, hcs, hc⟩ := exists_writtenKey_eq_cons l
    exact ⟨c, _, by rw [List.flatMap_cons, hcs]; rfl, hc⟩

/-- What follows one opening bracket is the header of a table, not of an element. -/
theorem line?_writtenPath (path : List String) (k : String) (rest : List Char) :
    line? ('[' :: (writtenPath (path ++ [k]) ++ rest)) =
      header? false (writtenPath (path ++ [k]) ++ rest) := by
  obtain ⟨c, cs, hcs, hc⟩ := exists_writtenPath_eq_cons path k
  have hne : c ≠ '[' := by
    rintro rfl
    exact absurd hc (by decide)
  rw [hcs, List.cons_append, line?]
  simp [hne]

/-- **A header is read.** -/
theorem isRead_header (h : Header) : (headerWord h).IsRead := by
  intro fuel done rest
  obtain ⟨isElement, path, k⟩ := h
  have hgap : ∀ s, skipGap? false ('\n' :: '[' :: s) = some ('[' :: s) := fun _ => rfl
  cases isElement with
  | true =>
    have hline : line? ('[' :: '[' :: (writtenPath (path ++ [k]) ++ ']' :: ']' :: '\n' :: rest)) =
        if path.length < depthLimit then some (.header ⟨true, path, k⟩, '\n' :: rest) else none := by
      simp only [line?, header?, dottedKey?_header]
      split <;> simp
    simpa [headerWord, Header.text] using lines?_line (hgap _) hline fuel done
  | false =>
    have hline : line? ('[' :: (writtenPath (path ++ [k]) ++ ']' :: '\n' :: rest)) =
        if path.length < depthLimit then some (.header ⟨false, path, k⟩, '\n' :: rest) else none := by
      simp only [line?_writtenPath, header?, dottedKey?_header]
      split <;> simp
    simpa [headerWord, Header.text] using lines?_line (hgap _) hline fuel done

end Downstream.Toml
