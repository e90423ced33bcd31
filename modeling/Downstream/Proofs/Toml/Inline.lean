import Downstream.Proofs.Toml.Start

/-!
# Values in a line are read as they were written

A value is read for what a document says of it, up to what closes it, if it nests no deeper than the
reader goes; otherwise the reader refuses it (`value?_inline`). The induction is on the value; an
array is read element by element and a table field by field, whichever of their forms they are
written in. The keys of a table ascend, so each field that is read stands after all before it.
-/

namespace Downstream.Toml

variable {s rest : List Char} {v : Value} {depth : Nat}
  {read? : List Char → Option (Item × List Char)}

/-- The value is read up to what closes it if it nests at most `depth` deep. -/
def ReadsTo (depth : Nat) (read? : List Char → Option (Item × List Char)) (v : Value) : Prop :=
  ∀ rest, Closes rest →
    read? (v.inline ++ rest) = if v.depth ≤ depth then some (v.item, rest) else none

theorem closes_comma (rest : List Char) : Closes (',' :: rest) :=
  closes_cons (by decide) (by decide) (by decide) rest

theorem closes_bracket (rest : List Char) : Closes (']' :: rest) :=
  closes_cons (by decide) (by decide) (by decide) rest

theorem closes_brace (rest : List Char) : Closes (' ' :: '\x7d' :: rest) :=
  closes_space_cons (by decide) rest

theorem closes_newline (rest : List Char) : Closes ('\n' :: rest) :=
  closes_cons (by decide) (by decide) (by decide) rest

@[simp]
theorem skipGap?_comma_cons (s : List Char) : skipGap? false (',' :: s) = some (',' :: s) :=
  rfl

@[simp]
theorem skipGap?_bracket_cons (s : List Char) : skipGap? false (']' :: s) = some (']' :: s) :=
  rfl

@[simp]
theorem skipGap?_brace_cons (s : List Char) : skipGap? false ('\x7d' :: s) = some ('\x7d' :: s) :=
  rfl

/-! ## Arrays -/

theorem inlineItems_eq_map (values : List Value) :
    Value.inlineItems values = values.map Value.inline := by
  induction values with
  | nil => rfl
  | cons v rest ih => rw [Value.inlineItems, ih, List.map_cons]

/-- An element in a line of its own. -/
def elementLine (w : List Char) : List Char :=
  [' ', ' ', ' ', ' '] ++ w ++ [',', '\n']

theorem elements?_close (h : skipGap? false s = some (']' :: rest)) (fuel : Nat)
    (done : List Item) : elements? read? (fuel + 1) done s = some (done.reverse, rest) := by
  simp only [elements?, h]

/-- An element is read, and what is to come depends on the comma or the bracket after it. -/
theorem elements?_inline (hv : ReadsTo depth read? v)
    (h : skipGap? false s = some (v.inline ++ rest)) (hrest : Closes rest) (fuel : Nat)
    (done : List Item) :
    elements? read? (fuel + 1) done s =
      if v.depth ≤ depth then (do
        match ← skipGap? false rest with
        | ',' :: rest => elements? read? fuel (v.item :: done) rest
        | ']' :: rest => some ((v.item :: done).reverse, rest)
        | _ => none)
      else none := by
  rw [elements?, h]
  split
  next hnone => cases hnone
  next more hmore =>
    obtain ⟨c, cs, hcs, hc⟩ := v.exists_inline_eq_cons
    rw [hcs] at hmore
    cases hmore
    exact absurd hc (by decide)
  next hsome =>
    cases hsome
    rw [hv rest hrest]
    by_cases hdepth : v.depth ≤ depth
    · rw [if_pos hdepth, if_pos hdepth]
      rfl
    · rw [if_neg hdepth, if_neg hdepth]
      rfl

theorem elements?_lines {values : List Value} (hread : ∀ v ∈ values, ReadsTo depth read? v)
    {fuel : Nat} (hfuel : values.length < fuel) (done : List Item) (rest : List Char) :
    elements? read? fuel done
        ('\n' :: ((values.map Value.inline).flatMap elementLine ++ ']' :: rest)) =
      if ∀ v ∈ values, v.depth ≤ depth then some (done.reverse ++ values.map Value.item, rest)
      else none := by
  induction values generalizing fuel done with
  | nil =>
    obtain ⟨fuel, rfl⟩ : ∃ n, fuel = n + 1 := ⟨fuel - 1, by simp at hfuel; omega⟩
    simp [elements?_close]
  | cons v values ih =>
    obtain ⟨fuel, rfl⟩ : ∃ n, fuel = n + 1 := ⟨fuel - 1, by simp at hfuel; omega⟩
    obtain ⟨hv, hvalues⟩ := List.forall_mem_cons.1 hread
    have hmore := ih hvalues (by simpa using hfuel) (v.item :: done)
    have hgap : skipGap? false ('\n' :: (((v :: values).map Value.inline).flatMap elementLine ++
        ']' :: rest)) = some (v.inline ++ ',' :: '\n' :: ((values.map Value.inline).flatMap
          elementLine ++ ']' :: rest)) := by simp [elementLine]
    rw [elements?_inline hv hgap (closes_comma _)]
    by_cases hdepth : v.depth ≤ depth
    · simpa [hdepth] using hmore
    · simp [hdepth]

theorem length_le_flatMap_elementLine (ws : List (List Char)) :
    ws.length ≤ (ws.flatMap elementLine).length := by
  induction ws with
  | nil => simp
  | cons w ws ih =>
    simp only [List.flatMap_cons, List.length_append, List.length_cons, elementLine]
    omega

theorem writtenArray_lines (v w : List Char) (ws : List (List Char)) :
    writtenArray (v :: w :: ws) = '[' :: '\n' :: (v :: w :: ws).flatMap elementLine ++ [']'] :=
  rfl

/-- **An array is read in each form that it is written in.** -/
theorem elements?_writtenArray {values : List Value} (hread : ∀ v ∈ values, ReadsTo depth read? v)
    (rest : List Char) :
    ∃ s, writtenArray (Value.inlineItems values) ++ rest = '[' :: s ∧
      elements? read? (s.length + 1) [] s =
        if ∀ v ∈ values, v.depth ≤ depth then some (values.map Value.item, rest) else none := by
  rw [inlineItems_eq_map]
  match values, hread with
  | [], _ => exact ⟨']' :: rest, rfl, by simp [elements?_close]⟩
  | [v], hread =>
    refine ⟨v.inline ++ ']' :: rest, by simp [writtenArray], ?_⟩
    rw [elements?_inline (hread v (by simp)) (v.skipGap?_inline _) (closes_bracket _)]
    by_cases hdepth : v.depth ≤ depth <;> simp [hdepth]
  | v :: w :: more, hread =>
    refine ⟨'\n' :: (((v :: w :: more).map Value.inline).flatMap elementLine ++ ']' :: rest),
      by rw [List.map_cons, List.map_cons, writtenArray_lines]; simp, ?_⟩
    have hlength := length_le_flatMap_elementLine ((v :: w :: more).map Value.inline)
    rw [List.length_map] at hlength
    rw [elements?_lines hread]
    · rfl
    · simp only [List.length_cons, List.length_append] at hlength ⊢
      omega

/-! ## Tables -/

theorem Entries.define_nil {entries : Entries} {k : String} (h : Dict.find? k entries = none)
    (i : Item) : entries.define [] k i = some (Dict.insert k (.value i) entries) := by
  simp [Entries.define, Entries.changeAt, h]

/-- A key after all others gets its value. -/
theorem Entries.define_last {entries : Entries} {k : String} (h : ∀ e ∈ entries, e.1 < k)
    (i : Item) : entries.define [] k i = some (entries ++ [(k, .value i)]) := by
  have hasymm : ∀ a b : String, a < b → ¬b < a := fun _ _ => String.lt_asymm
  have hnew : Dict.find? k entries = none :=
    Dict.find?_eq_none fun e he => (String.ne_of_lt (h e he)).symm
  have hinsert := Dict.insert_between hasymm h (show ∀ e ∈ ([] : Entries), k < e.1 from nofun)
    (.value i)
  rw [List.append_nil] at hinsert
  rw [Entries.define_nil hnew, hinsert]

/-- A key with its value in a line. -/
def field (e : String × Value) : List Char :=
  writtenKey e.1 ++ [' ', '=', ' '] ++ e.2.inline

theorem inlineFields_eq_map (entries : List (String × Value)) :
    Value.inlineFields entries = entries.map field := by
  induction entries with
  | nil => rfl
  | cons e rest ih => rw [Value.inlineFields, ih, List.map_cons, field]

/-- The entries that a table has once its values have been read. -/
def readEntries (entries : List (String × Value)) : Entries :=
  entries.map fun e => (e.1, .value e.2.item)

theorem itemsOf_readEntries (entries : List (String × Value)) :
    itemsOf (readEntries entries) = Value.itemEntries entries := by
  induction entries with
  | nil => rfl
  | cons e rest ih => rw [Value.itemEntries, ← ih]; rfl

/-- A field is read, and what is to come depends on the comma or the brace after it. -/
theorem fields?_field {e : String × Value} (hv : ReadsTo depth read? e.2)
    (h : skipGap? false s = some (field e ++ rest)) (hrest : Closes rest) (fuel : Nat)
    {done : Entries} (hlast : ∀ d ∈ done, d.1 < e.1) :
    fields? read? (fuel + 1) done s =
      if e.2.depth ≤ depth then (do
        match ← skipGap? false rest with
        | ',' :: rest => fields? read? fuel (done ++ readEntries [e]) rest
        | '\x7d' :: rest => some (done ++ readEntries [e], rest)
        | _ => none)
      else none := by
  have hkey : dottedKey? depthLimit (field e ++ rest) =
      some (([], e.1), '=' :: ' ' :: (e.2.inline ++ rest)) := by
    simpa [field] using dottedKey?_writtenKey e.1 (' ' :: (e.2.inline ++ rest))
  have hequals : skipGap? false ('=' :: ' ' :: (e.2.inline ++ rest)) =
    some ('=' :: ' ' :: (e.2.inline ++ rest)) := rfl
  rw [fields?, h]
  split
  next hnone => cases hnone
  next more hmore =>
    obtain ⟨c, cs, hcs, hc⟩ := exists_writtenKey_eq_cons e.1
    rw [field, hcs] at hmore
    cases hmore
    exact absurd hc (by decide)
  next hsome =>
    cases hsome
    simp only [hkey, hequals, takeChar_cons, skipGap?_space_cons, Value.skipGap?_inline,
      hv rest hrest, Option.bind_eq_bind, Option.bind_some]
    by_cases hdepth : e.2.depth ≤ depth
    · simp only [if_pos hdepth, Option.bind_some, Entries.define_last hlast]
      rfl
    · simp only [if_neg hdepth, Option.bind_none]

/-- The fields of a table are read one after the other. -/
theorem fields?_commaSeparated {e : String × Value} {entries : List (String × Value)}
    (hread : ∀ f ∈ e :: entries, ReadsTo depth read? f.2) {fuel : Nat}
    (hfuel : entries.length < fuel) {done : Entries}
    (hdone : ∀ d ∈ done, ∀ f ∈ e :: entries, d.1 < f.1) (hordered : Dict.Ordered (e :: entries))
    (rest : List Char) :
    fields? read? fuel done
        (' ' :: (commaSeparated ((e :: entries).map field) ++ ' ' :: '\x7d' :: rest)) =
      if ∀ f ∈ e :: entries, f.2.depth ≤ depth then some (done ++ readEntries (e :: entries), rest)
      else none := by
  induction entries generalizing e fuel done with
  | nil =>
    obtain ⟨fuel, rfl⟩ : ∃ n, fuel = n + 1 := ⟨fuel - 1, by simp at hfuel; omega⟩
    have hgap : skipGap? false (' ' :: (commaSeparated ([e].map field) ++ ' ' :: '\x7d' :: rest)) =
        some (field e ++ ' ' :: '\x7d' :: rest) := by simp [field, commaSeparated]
    rw [fields?_field (hread e (by simp)) hgap (closes_brace rest) _
      fun d hd => hdone d hd e (by simp)]
    simp
  | cons f entries ih =>
    obtain ⟨fuel, rfl⟩ : ∃ n, fuel = n + 1 := ⟨fuel - 1, by simp at hfuel; omega⟩
    obtain ⟨hlt, hordered⟩ := List.pairwise_cons.1 hordered
    have hdone' : ∀ d ∈ done ++ readEntries [e], ∀ g ∈ f :: entries, d.1 < g.1 := by
      intro d hd g hg
      rcases List.mem_append.1 hd with hd | hd
      · exact hdone d hd g (List.mem_cons_of_mem _ hg)
      · cases List.mem_singleton.1 hd
        exact hlt g hg
    have hmore := ih (fun g hg => hread g (List.mem_cons_of_mem _ hg)) (by simpa using hfuel) hdone'
      hordered
    have hgap : skipGap? false (' ' :: (commaSeparated ((e :: f :: entries).map field) ++
        ' ' :: '\x7d' :: rest)) = some (field e ++ ',' :: ' ' :: (commaSeparated
          ((f :: entries).map field) ++ ' ' :: '\x7d' :: rest)) := by simp [field, commaSeparated]
    rw [fields?_field (hread e (by simp)) hgap (closes_comma _) _
      fun d hd => hdone d hd e (by simp)]
    have hone : readEntries [e] ++ readEntries (f :: entries) = readEntries (e :: f :: entries) := rfl
    rw [List.append_assoc, hone] at hmore
    simp only [List.forall_mem_cons (a := e), skipGap?_comma_cons, Option.bind_eq_bind,
      Option.bind_some, hmore]
    by_cases hdepth : e.2.depth ≤ depth
    · simp only [hdepth, if_true, true_and]
    · simp only [hdepth, if_false, false_and]

theorem length_le_commaSeparated (entries : List (String × Value)) :
    entries.length ≤ (commaSeparated (entries.map field)).length := by
  have hfield : ∀ e, 0 < (field e).length := fun e => by
    simp only [field, List.length_append, List.length_cons]
    omega
  induction entries with
  | nil => simp
  | cons e entries ih =>
    have he := hfield e
    cases entries with
    | nil => exact he
    | cons f entries =>
      simp only [List.map_cons, commaSeparated, List.length_append, List.length_cons] at ih ⊢
      omega

/-- **A table is read in each form that it is written in.** -/
theorem fields?_writtenFields {entries : List (String × Value)}
    (hread : ∀ e ∈ entries, ReadsTo depth read? e.2) (hordered : Dict.Ordered entries)
    (rest : List Char) :
    ∃ s, writtenFields (Value.inlineFields entries) ++ rest = '\x7b' :: s ∧
      fields? read? (s.length + 1) [] s =
        if ∀ e ∈ entries, e.2.depth ≤ depth then some (readEntries entries, rest) else none := by
  rw [inlineFields_eq_map]
  cases entries with
  | nil => exact ⟨'\x7d' :: rest, rfl, by simp [fields?, readEntries]⟩
  | cons e entries =>
    refine ⟨' ' :: (commaSeparated ((e :: entries).map field) ++ ' ' :: '\x7d' :: rest),
      by simp [writtenFields], ?_⟩
    have hlength := length_le_commaSeparated (e :: entries)
    have hnone : ∀ d ∈ ([] : Entries), ∀ f ∈ e :: entries, d.1 < f.1 := nofun
    rw [fields?_commaSeparated hread _ hnone hordered]
    · rfl
    · simp only [List.length_cons, List.length_append] at hlength ⊢
      omega

/-! ## All values -/

/-- A reader that goes no deeper refuses what starts with a bracket. -/
theorem value?_zero_bracket (rest : List Char) :
    value? 0 ('[' :: rest) = none ∧ value? 0 ('\x7b' :: rest) = none :=
  ⟨rfl, rfl⟩

/-- **A value in a line is read for what a document says of it**, up to what closes it, unless it
nests too deep. -/
theorem value?_inline (hv : v.Sound) (depth : Nat) : ReadsTo depth (value? depth) v := by
  induction hv generalizing depth with
  | string t => exact fun rest hrest => value?_writtenText depth t hrest.quote
  | integer n => exact fun rest => (denotes_integer n.toInt).value? depth
  | float x => exact fun rest => (denotes_float x).value? depth
  | boolean b => exact fun rest => (denotes_boolean b).value? depth
  | moment m => exact fun rest => (denotes_moment m).value? depth
  | @array values _ ih =>
    intro rest hrest
    cases depth with
    | zero =>
      obtain ⟨s, hs, -⟩ := elements?_writtenArray (fun v hv => ih v hv 0) rest
      rw [Value.inline, hs]
      simp [Value.depth, value?_zero_bracket]
    | succ depth =>
      obtain ⟨s, hs, hs'⟩ := elements?_writtenArray (fun v hv => ih v hv depth) rest
      rw [Value.inline, hs, value?, hs', Value.item, Value.items_eq_map]
      simp only [Value.depth, Nat.add_le_add_iff_right, Value.depthOfItems_le_iff]
      split <;> rfl
  | @table entries hordered _ _ ih =>
    intro rest hrest
    cases depth with
    | zero =>
      obtain ⟨s, hs, -⟩ := fields?_writtenFields (fun e he => ih e he 0) hordered rest
      rw [Value.inline, hs]
      simp [Value.depth, value?_zero_bracket]
    | succ depth =>
      obtain ⟨s, hs, hs'⟩ := fields?_writtenFields (fun e he => ih e he depth) hordered rest
      rw [Value.inline, hs, value?, hs', Value.item, ← itemsOf_readEntries]
      simp only [Value.depth, Nat.add_le_add_iff_right, Value.depthOfEntries_le_iff]
      split <;> rfl

end Downstream.Toml
