import Downstream.Proofs.Toml.Line

/-!
# The sections of a written table

What is written under headers for a value is a row of sections (`Value.outline`), each a header with
the entries that stand in lines below it. The text of the value is the text of its sections
(`Value.sections_eq`), whose lines are read one after the other (`Section.isRead_words`).
-/

namespace Downstream.Toml

/-- A header with the entries in the lines below it. -/
structure Section where
  header : Header
  own : List (String × Value)

namespace Section

/-- The section of a table that is found under further keys. -/
def under (path : List String) (s : Section) : Section :=
  { s with header := { s.header with path := path ++ s.header.path } }

theorem under_under (p q : List String) (s : Section) : (s.under q).under p = s.under (p ++ q) := by
  simp [under]

/-- A section as it is written. -/
def text (s : Section) : List Char :=
  s.header.text ++ s.own.flatMap fun e => writtenEntry e.1 e.2.inline

/-- The lines of a section. -/
def words (s : Section) : List Word :=
  headerWord s.header :: s.own.map entryWord

theorem flatMap_words (s : Section) : s.words.flatMap Word.text = s.text := by
  rw [words, text, List.flatMap_cons, List.flatMap_map]
  rfl

theorem isRead_words {s : Section} (h : ∀ e ∈ s.own, e.2.Sound) : ∀ w ∈ s.words, w.IsRead := by
  rw [words, List.forall_mem_cons, List.forall_mem_map]
  exact ⟨isRead_header s.header, fun e he => isRead_entry (h e he)⟩

/-- The section is within the limits of the reader: its header has not too many keys, and in no line
brackets nest too deep. -/
def Fits (s : Section) : Prop :=
  s.header.path.length < depthLimit ∧ ∀ e ∈ s.own, e.2.depth ≤ depthLimit

instance (s : Section) : Decidable s.Fits :=
  inferInstanceAs (Decidable (_ ∧ _))

theorem forall_mem_words_fits {s : Section} : (∀ w ∈ s.words, w.fits) ↔ s.Fits := by
  rw [words, List.forall_mem_cons, List.forall_mem_map]
  simp only [headerWord, entryWord, decide_eq_true_eq]
  rfl

end Section

namespace Value

/-! ## Outlines -/

/-- The entries of a table that stand in its own lines. -/
def ownEntries (entries : List (String × Value)) : List (String × Value) :=
  entries.filter fun e => !e.2.isSection

mutual

/-- The sections for a value under a key. -/
def outline (k : String) : Value → List Section
  | .table entries =>
    let inner := (innerOutline entries).map (Section.under [k])
    if (ownEntries entries).isEmpty && !inner.isEmpty then inner
    else ⟨⟨false, [], k⟩, ownEntries entries⟩ :: inner
  | .array values => elementOutline k values
  | _ => []

/-- The sections for the entries of a table. -/
def innerOutline : List (String × Value) → List Section
  | [] => []
  | (k, v) :: rest => if v.isSection then v.outline k ++ innerOutline rest else innerOutline rest

/-- The sections for the elements of an array of tables under a key. -/
def elementOutline (k : String) : List Value → List Section
  | [] => []
  | .table entries :: rest =>
    ⟨⟨true, [], k⟩, ownEntries entries⟩ :: (innerOutline entries).map (Section.under [k]) ++
      elementOutline k rest
  | _ :: rest => elementOutline k rest

end

theorem outline_ne_nil {v : Value} (h : v.isSection = true) (k : String) : v.outline k ≠ [] := by
  cases v with
  | table entries =>
    rw [outline]
    split
    next hinner =>
      intro hnil
      simp [hnil] at hinner
    · exact List.cons_ne_nil _ _
  | array values =>
    cases values with
    | nil => cases h
    | cons v rest =>
      cases v with
      | table entries => simp [outline, elementOutline]
      | _ => cases h
  | _ => cases h

theorem innerOutline_eq_nil_iff {entries : List (String × Value)} :
    innerOutline entries = [] ↔ ∀ e ∈ entries, e.2.isSection = false := by
  induction entries with
  | nil => simp [innerOutline]
  | cons e rest ih =>
    cases h : e.2.isSection with
    | true => simp [innerOutline, h, outline_ne_nil h]
    | false => simp [innerOutline, h, ih]

/-! ## Text -/

theorem ownLines_eq_map (entries : List (String × Value)) :
    ownLines entries = (ownEntries entries).map fun e => writtenEntry e.1 e.2.inline := by
  induction entries with
  | nil => rfl
  | cons e rest ih =>
    cases h : e.2.isSection with
    | true => simpa [ownLines, ownEntries, h] using ih
    | false => simpa [ownLines, ownEntries, h] using ih

theorem innerSections_eq_nil_iff {path : List String} {entries : List (String × Value)} :
    innerSections path entries = [] ↔ innerOutline entries = [] := by
  rw [innerOutline_eq_nil_iff]
  induction entries with
  | nil => simp [innerSections]
  | cons e rest ih =>
    cases h : e.2.isSection with
    | true => simp [innerSections, h]
    | false => simp [innerSections, h, ih]

/-- The text of sections under further keys. -/
def outlineText (path : List String) (sections : List Section) : List Char :=
  sections.flatMap fun s => (s.under path).text

theorem outlineText_cons (path : List String) (isElement : Bool) (k : String)
    (own : List (String × Value)) (a : List Section) :
    outlineText path (⟨⟨isElement, [], k⟩, own⟩ :: a) =
      Header.text ⟨isElement, path, k⟩ ++ (own.flatMap fun e => writtenEntry e.1 e.2.inline) ++
        outlineText path a := by
  simp [outlineText, Section.under, Section.text]

theorem outlineText_append (path : List String) (a b : List Section) :
    outlineText path (a ++ b) = outlineText path a ++ outlineText path b :=
  List.flatMap_append

theorem outlineText_under (path : List String) (k : String) (a : List Section) :
    outlineText path (a.map (Section.under [k])) = outlineText (path ++ [k]) a := by
  simp [outlineText, List.flatMap_map, Section.under_under]

theorem flatten_ownLines (entries : List (String × Value)) :
    (ownLines entries).flatten =
      (ownEntries entries).flatMap fun e => writtenEntry e.1 e.2.inline := by
  rw [ownLines_eq_map, List.flatMap_def]

theorem isEmpty_ownLines (entries : List (String × Value)) :
    (ownLines entries).isEmpty = (ownEntries entries).isEmpty := by
  rw [ownLines_eq_map, List.isEmpty_map]

theorem isEmpty_innerSections (path : List String) (entries : List (String × Value)) :
    (innerSections path entries).isEmpty = (innerOutline entries).isEmpty := by
  rw [Bool.eq_iff_iff, List.isEmpty_iff, List.isEmpty_iff, innerSections_eq_nil_iff]

mutual

/-- **The text of a value under headers is the text of its sections.** -/
theorem sections_eq (path : List String) (k : String) :
    ∀ v : Value, v.sections (path ++ [k]) = outlineText path (v.outline k)
  | .table entries => by
    have hinner := innerSections_eq (path ++ [k]) entries
    simp only [sections, outline, writtenSection, isEmpty_ownLines, isEmpty_innerSections,
      List.isEmpty_map, hinner, flatten_ownLines, Bool.false_eq_true, if_false]
    split
    next h =>
      have hown : ownEntries entries = [] := by
        rw [Bool.and_eq_true, List.isEmpty_iff] at h
        exact h.1
      rw [outlineText_under, hown, List.flatMap_nil, List.append_nil, List.nil_append]
    · rw [outlineText_cons, outlineText_under]
      rfl
  | .array values => by
    rw [sections, outline]
    exact elementSections_eq path k values
  | .string _ => rfl
  | .integer _ => rfl
  | .float _ => rfl
  | .boolean _ => rfl
  | .moment _ => rfl

theorem innerSections_eq (path : List String) :
    ∀ entries : List (String × Value),
      (innerSections path entries).flatten = outlineText path (innerOutline entries)
  | [] => rfl
  | (k, v) :: rest => by
    have hv := sections_eq path k v
    have hrest := innerSections_eq path rest
    cases h : v.isSection with
    | true => simp [innerSections, innerOutline, h, hv, hrest, outlineText_append]
    | false => simp [innerSections, innerOutline, h, hrest]

theorem elementSections_eq (path : List String) (k : String) :
    ∀ values : List Value,
      elementSections (path ++ [k]) values = outlineText path (elementOutline k values)
  | [] => rfl
  | .table entries :: rest => by
    have hinner := innerSections_eq (path ++ [k]) entries
    have hrest := elementSections_eq path k rest
    rw [elementSections, elementOutline, writtenSection, hinner, hrest, flatten_ownLines,
      outlineText_append, outlineText_cons, outlineText_under]
    simp [Header.text]
  | .array _ :: rest => elementSections_eq path k rest
  | .string _ :: rest => elementSections_eq path k rest
  | .integer _ :: rest => elementSections_eq path k rest
  | .float _ :: rest => elementSections_eq path k rest
  | .boolean _ :: rest => elementSections_eq path k rest
  | .moment _ :: rest => elementSections_eq path k rest

end

/-! ## Bounds -/

theorem exists_of_mem_innerOutline {entries : List (String × Value)} {s : Section}
    (h : s ∈ innerOutline entries) : ∃ e ∈ entries, s ∈ e.2.outline e.1 := by
  induction entries with
  | nil => cases h
  | cons e rest ih =>
    have hrest : s ∈ innerOutline rest → ∃ f ∈ e :: rest, s ∈ f.2.outline f.1 := fun hs => by
      obtain ⟨f, hf, hs⟩ := ih hs
      exact ⟨f, List.mem_cons_of_mem _ hf, hs⟩
    rw [innerOutline] at h
    split at h
    · rcases List.mem_append.1 h with hs | hs
      · exact ⟨e, List.mem_cons_self, hs⟩
      · exact hrest hs
    · exact hrest h

/-- The sections of a table: its own, and those for its entries. -/
theorem mem_outline_table {entries : List (String × Value)} {k : String} {s : Section}
    (h : s ∈ (Value.table entries).outline k) :
    s = ⟨⟨false, [], k⟩, ownEntries entries⟩ ∨ ∃ i ∈ innerOutline entries, s = i.under [k] := by
  have hinner : s ∈ (innerOutline entries).map (Section.under [k]) →
      ∃ i ∈ innerOutline entries, s = i.under [k] := fun hs => by
    obtain ⟨i, hi, hs⟩ := List.mem_map.1 hs
    exact ⟨i, hi, hs.symm⟩
  rw [outline] at h
  split at h
  · exact .inr (hinner h)
  · exact (List.mem_cons.1 h).imp id hinner

theorem under_mem_outline_table {entries : List (String × Value)} {i : Section}
    (h : i ∈ innerOutline entries) (k : String) :
    i.under [k] ∈ (Value.table entries).outline k := by
  rw [outline]
  split
  · exact List.mem_map_of_mem h
  · exact List.mem_cons_of_mem _ (List.mem_map_of_mem h)

theorem mem_elementOutline {values : List Value} {k : String} {s : Section}
    (h : s ∈ elementOutline k values) :
    ∃ entries, .table entries ∈ values ∧ (s = ⟨⟨true, [], k⟩, ownEntries entries⟩ ∨
      ∃ i ∈ innerOutline entries, s = i.under [k]) := by
  induction values with
  | nil => cases h
  | cons v rest ih =>
    have hrest : s ∈ elementOutline k rest → ∃ entries, .table entries ∈ v :: rest ∧
        (s = ⟨⟨true, [], k⟩, ownEntries entries⟩ ∨ ∃ i ∈ innerOutline entries, s = i.under [k]) :=
      fun hs => by
        obtain ⟨entries, hmem, hs⟩ := ih hs
        exact ⟨entries, List.mem_cons_of_mem _ hmem, hs⟩
    cases v with
    | table entries =>
      rw [elementOutline, List.cons_append, List.mem_cons, List.mem_append] at h
      rcases h with hs | hs | hs
      · exact ⟨entries, List.mem_cons_self, .inl hs⟩
      · obtain ⟨i, hi, hs⟩ := List.mem_map.1 hs
        exact ⟨entries, List.mem_cons_self, .inr ⟨i, hi, hs.symm⟩⟩
      · exact hrest hs
    | _ => exact hrest h

end Value

/-- The section of a sound value that nests less than `n` deep. -/
structure Section.Within (n : Nat) (s : Section) : Prop where
  path : s.header.path.length < n
  sound : ∀ e ∈ s.own, e.2.Sound
  depth : ∀ e ∈ s.own, e.2.depth < n

namespace Value

variable {v : Value} {entries : List (String × Value)} {n : Nat}

theorem within_ownEntries (hsound : ∀ e ∈ entries, e.2.Sound) (hdepth : ∀ e ∈ entries, e.2.depth ≤ n)
    (isElement : Bool) (k : String) :
    Section.Within (n + 1) ⟨⟨isElement, [], k⟩, ownEntries entries⟩ where
  path := Nat.succ_pos n
  sound e he := hsound e (List.mem_filter.1 he).1
  depth e he := Nat.lt_succ_of_le (hdepth e (List.mem_filter.1 he).1)

theorem within_under {s : Section} (h : s.Within n) (k : String) : (s.under [k]).Within (n + 1) where
  path := by simpa [Section.under] using h.path
  sound := h.sound
  depth e he := Nat.lt_succ_of_lt (h.depth e he)

theorem within_mono {s : Section} {m : Nat} (h : s.Within n) (hle : n ≤ m) : s.Within m where
  path := Nat.lt_of_lt_of_le h.path hle
  sound := h.sound
  depth e he := Nat.lt_of_lt_of_le (h.depth e he) hle

/-- The sections of a table nest no deeper than the table if those of its entries do. -/
theorem within_outline_table (hsound : ∀ e ∈ entries, e.2.Sound)
    (h : ∀ e ∈ entries, ∀ k, ∀ s ∈ e.2.outline k, s.Within e.2.depth) (k : String) :
    ∀ s ∈ (Value.table entries).outline k, s.Within (Value.table entries).depth := by
  intro s hs
  have hdepth := depthOfEntries_le_iff.1 (Nat.le_refl (depthOfEntries entries))
  rcases mem_outline_table hs with rfl | ⟨i, hi, rfl⟩
  · exact within_ownEntries hsound hdepth false k
  · obtain ⟨e, he, hi⟩ := exists_of_mem_innerOutline hi
    exact within_under (within_mono (h e he e.1 i hi) (hdepth e he)) k

/-- The sections of a sound value nest no deeper than the value. -/
theorem Sound.within_outline (h : v.Sound) (k : String) : ∀ s ∈ v.outline k, s.Within v.depth := by
  induction h generalizing k with
  | table _ _ hsound ih => exact within_outline_table hsound ih k
  | @array values hsound ih =>
    intro s hs
    have hdepth := depthOfItems_le_iff.1 (Nat.le_refl (depthOfItems values))
    obtain ⟨entries, hmem, rfl | ⟨i, hi, rfl⟩⟩ := mem_elementOutline hs
    · cases hsound _ hmem with
      | table _ _ hentries =>
        have hdepth' := depthOfEntries_le_iff.1 (Nat.le_refl (depthOfEntries entries))
        exact within_mono (within_ownEntries hentries hdepth' true k)
          (Nat.le_succ_of_le (hdepth _ hmem))
    · exact within_mono (ih _ hmem k _ (under_mem_outline_table hi k))
        (Nat.le_succ_of_le (hdepth _ hmem))
  | _ => exact nofun

end Value

end Downstream.Toml
