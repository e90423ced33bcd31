import Downstream.Proofs.Toml.Assembly

/-!
# A written document is read

A document is written as the entries of its main table and sections. Its text spells their lines
(`read?_documentText`), so reading it is adding the sections to the entries.
-/

namespace Downstream.Toml

variable {fields : List (String × Value)} {sections : List Section}

/-- The text of a document with these entries in its main table and these sections. -/
def documentText (fields : List (String × Value)) (sections : List Section) : List Char :=
  (fields.flatMap fun e => writtenEntry e.1 e.2.inline) ++ sections.flatMap Section.text

/-- The lines of a document. -/
def documentWords (fields : List (String × Value)) (sections : List Section) : List Word :=
  fields.map entryWord ++ sections.flatMap Section.words

theorem flatMap_documentWords (fields : List (String × Value)) (sections : List Section) :
    (documentWords fields sections).flatMap Word.text = documentText fields sections := by
  simp [documentWords, documentText, entryWord, List.flatMap_map, List.flatMap_assoc,
    Section.flatMap_words]

/-- The lines of sections. -/
def sectionLines (sections : List Section) : List Line :=
  sections.flatMap fun s => .header s.header :: (s.own.map entryOf).map .entry

theorem map_documentWords (fields : List (String × Value)) (sections : List Section) :
    (documentWords fields sections).map Word.line =
      (fields.map entryOf).map .entry ++ sectionLines sections := by
  simp [documentWords, sectionLines, Section.words, headerWord, entryWord, List.map_flatMap,
    Function.comp_def]

theorem leading_append (entries : List Entry) (sections : List Section) :
    leading (entries.map .entry ++ sectionLines sections) = entries := by
  induction entries with
  | nil => cases sections <;> rfl
  | cons e entries ih => simp [leading, ih]

theorem sections_append (entries : List Entry) (lines : List Line) :
    Toml.sections (entries.map .entry ++ lines) = Toml.sections lines := by
  induction entries with
  | nil => rfl
  | cons e entries ih => simpa [Toml.sections] using ih

theorem sections_sectionLines (sections : List Section) :
    Toml.sections (sectionLines sections) =
      sections.map fun s => (s.header, s.own.map entryOf) := by
  induction sections with
  | nil => rfl
  | cons s rest ih =>
    have hlines : sectionLines (s :: rest) =
      .header s.header :: ((s.own.map entryOf).map .entry ++ sectionLines rest) := rfl
    rw [hlines, Toml.sections, leading_append, sections_append, ih, List.map_cons]

/-- The lines of a document are put together piece by piece. -/
theorem ofLines?_document (fields : List (String × Value)) (sections : List Section) :
    Entries.ofLines? ((fields.map entryOf).map .entry ++ sectionLines sections) =
      (Entries.defineAll [] (fields.map entryOf)).bind fun t => sections.foldlM Entries.add t := by
  rw [Entries.ofLines?, leading_append, sections_append, sections_sectionLines]
  simp only [List.foldlM_map]
  rfl

/-- What the lines of a text say. -/
def readLines? (s : List Char) : Option (Dict String Item) :=
  (lines? (s.length + 1) [] s).bind fun lines => (Entries.ofLines? lines).map itemsOf

/-- A text without a byte order mark is read line by line. -/
theorem read?_ofList {s : List Char} (h : StartsOutside (· = '\ufeff') s) :
    read? (String.ofList s) = readLines? s := by
  have hmark : ∀ rest, s ≠ '\ufeff' :: rest := by
    rintro rest rfl
    cases h _ rfl
  rw [read?, String.toList_ofList]
  split
  next rest => exact absurd rfl (hmark rest)
  · simp [readLines?, Option.map_eq_bind, Function.comp_def]

theorem startsOutside_documentText {e : String × Value} {q : Char → Bool}
    (hq : ∀ c, startsKey c = true → q c = false) (fields : List (String × Value))
    (sections : List Section) : StartsOutside q (documentText (e :: fields) sections) := by
  have htext : documentText (e :: fields) sections =
      writtenKey e.1 ++ ([' ', '=', ' '] ++ e.2.inline ++ ['\n'] ++ documentText fields sections) := by
    simp [documentText, writtenEntry]
  rw [htext]
  exact startsOutside_of_startsKey hq e.1 _

/-- **A written document is read for its entries with its sections added**, unless a section is
beyond the limits of the reader. -/
theorem read?_documentText (hne : fields ≠ []) (hfields : ∀ e ∈ fields, e.2.Sound)
    (hdepth : ∀ e ∈ fields, e.2.depth ≤ depthLimit)
    (hsections : ∀ s ∈ sections, ∀ e ∈ s.own, e.2.Sound) :
    read? (String.ofList (documentText fields sections)) =
      if ∀ s ∈ sections, s.Fits then
        ((Entries.defineAll [] (fields.map entryOf)).bind fun t =>
          sections.foldlM Entries.add t).map itemsOf
      else none := by
  have hread : ∀ w ∈ documentWords fields sections, w.IsRead := by
    rw [documentWords, List.forall_mem_append, List.forall_mem_map]
    refine ⟨fun e he => isRead_entry (hfields e he), fun w hw => ?_⟩
    obtain ⟨s, hs, hw⟩ := List.mem_flatMap.1 hw
    exact Section.isRead_words (hsections s hs) w hw
  have hfits : (∀ w ∈ documentWords fields sections, w.fits) ↔ ∀ s ∈ sections, s.Fits := by
    rw [documentWords, List.forall_mem_append, List.forall_mem_map, List.forall_mem_flatMap]
    simp only [Section.forall_mem_words_fits, entryWord, decide_eq_true_eq]
    exact and_iff_right hdepth
  have hlength := length_le_flatMap_text hread
  have hlines := lines?_words hread (Nat.lt_succ_of_le hlength) []
  rw [flatMap_documentWords, map_documentWords] at hlines
  obtain ⟨e, rest, rfl⟩ := List.exists_cons_of_ne_nil hne
  have hmark : ∀ c, startsKey c = true → decide (c = '\ufeff') = false := by
    rintro c hc
    refine decide_eq_false ?_
    rintro rfl
    revert hc
    decide
  rw [read?_ofList (startsOutside_documentText hmark rest sections), readLines?, hlines]
  simp only [hfits]
  split
  · rw [Option.bind_some, List.reverse_nil, List.nil_append, ofLines?_document]
  · rfl

end Downstream.Toml
