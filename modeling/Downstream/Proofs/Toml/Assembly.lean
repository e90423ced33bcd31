import Downstream.Proofs.Toml.Section

/-!
# Written sections come together again

The sections of a value, added one after the other, put it under its key (`Value.Sound.places`).
A row of sections under one more key changes nothing but the table under that key
(`Entries.foldlM_under`), so the table is put together as if it stood alone. The entries of a table
are gone through in order: those before the present one are complete, of those after it the ones in
own lines are there (`Value.foldlM_innerOutline`).
-/

namespace Downstream.Toml

namespace Entries

variable {k : String} {t : Entries} {f g : Entries → Option Entries}

/-! ## Tables under a key -/

/-- Changes the table under a key, as the header of a table in it does. -/
def changeUnder (k : String) (f : Entries → Option Entries) (t : Entries) : Option Entries :=
  t.changeAt false (fun _ => f) false [k]

theorem changeUnder_of_none (h : Dict.find? k t = none) :
    changeUnder k f t = (f []).map fun new => Dict.insert k (.table .implied new) t := by
  simp [changeUnder, changeAt, h, Option.map_eq_bind, Function.comp_def]

theorem changeUnder_of_table {origin : Origin} {former : Entries}
    (h : Dict.find? k t = some (.table origin former)) :
    changeUnder k f t = (f former).map fun new => Dict.insert k (.table origin new) t := by
  simp [changeUnder, changeAt, h, Option.map_eq_bind, Function.comp_def]

theorem changeUnder_of_tables {earlier : List Entries} {last : Entries}
    (h : Dict.find? k t = some (.tables earlier last)) :
    changeUnder k f t = (f last).map fun new => Dict.insert k (.tables earlier new) t := by
  simp [changeUnder, changeAt, h, Option.map_eq_bind, Function.comp_def]

theorem changeUnder_of_value {i : Item} (h : Dict.find? k t = some (.value i)) :
    changeUnder k f t = none := by
  simp [changeUnder, changeAt, h]

theorem insert_insert (k : String) (n m : Node) (t : Entries) :
    Dict.insert k m (Dict.insert k n t) = Dict.insert k m t :=
  Dict.insert_insert String.lt_irrefl k n m t

/-- Two changes under the same key are one. -/
theorem changeUnder_bind (k : String) (f g : Entries → Option Entries) (t : Entries) :
    (changeUnder k f t).bind (changeUnder k g) = changeUnder k (fun t => (f t).bind g) t := by
  have hself : ∀ n, Dict.find? k (Dict.insert k n t) = some n := fun n => Dict.find?_insert_self k n t
  rcases h : Dict.find? k t with _ | ⟨i⟩ | ⟨origin, former⟩ | ⟨earlier, last⟩
  · rw [changeUnder_of_none h, changeUnder_of_none h]
    cases f [] with
    | none => rfl
    | some new => simp [changeUnder_of_table (hself _), insert_insert]
  · rw [changeUnder_of_value h, changeUnder_of_value h]
    rfl
  · rw [changeUnder_of_table h, changeUnder_of_table h]
    cases f former with
    | none => rfl
    | some new => simp [changeUnder_of_table (hself _), insert_insert]
  · rw [changeUnder_of_tables h, changeUnder_of_tables h]
    cases f last with
    | none => rfl
    | some new => simp [changeUnder_of_tables (hself _), insert_insert]

/-! ## Sections -/

/-- Adds a section. -/
def add (t : Entries) (s : Section) : Option Entries :=
  t.addSection s.header (s.own.map entryOf)

/-- What a header changes does not depend on how the table above came to be. -/
theorem changeAt_here (f : Entries → Option Entries) (here here' : Bool) (t : Entries)
    (path : List String) :
    t.changeAt false (fun _ => f) here path = t.changeAt false (fun _ => f) here' path := by
  cases path <;> rfl

theorem changeAt_cons (f : Entries → Option Entries) (t : Entries) (k : String)
    (path : List String) :
    t.changeAt false (fun _ => f) false (k :: path) =
      changeUnder k (fun t => t.changeAt false (fun _ => f) false path) t := by
  rcases h : Dict.find? k t with _ | ⟨i⟩ | ⟨origin, former⟩ | ⟨earlier, last⟩
  · simp [changeUnder, changeAt, h]
  · simp [changeUnder, changeAt, h]
  · simp [changeUnder, changeAt, h, changeAt_here f (decide (origin = .dotted)) false]
  · simp [changeUnder, changeAt, h]

theorem add_under (k : String) (s : Section) (t : Entries) :
    t.add (s.under [k]) = changeUnder k (fun t => t.add s) t := by
  simp only [add, addSection, Section.under, List.singleton_append, changeAt_cons]

/-- **Sections under one more key change the table under that key and nothing else.** -/
theorem foldlM_under (k : String) {sections : List Section} (hne : sections ≠ []) (t : Entries) :
    (sections.map (Section.under [k])).foldlM add t =
      changeUnder k (fun t => sections.foldlM add t) t := by
  induction sections generalizing t with
  | nil => exact absurd rfl hne
  | cons s sections ih =>
    cases sections with
    | nil => simp [add_under]
    | cons s' sections =>
      have hmore : (fun t => ((s' :: sections).map (Section.under [k])).foldlM add t) =
          changeUnder k fun t => (s' :: sections).foldlM add t := funext (ih (List.cons_ne_nil _ _))
      rw [List.map_cons, List.foldlM_cons, add_under, Option.bind_eq_bind, hmore]
      exact changeUnder_bind k _ _ t

/-! ## Own lines -/

theorem defineAll_entryOf {entries : List (String × Value)} (hordered : Dict.Ordered entries)
    (h : ∀ d ∈ t, ∀ e ∈ entries, d.1 < e.1) :
    defineAll t (entries.map entryOf) = some (t ++ readEntries entries) := by
  induction entries generalizing t with
  | nil => simp [defineAll, readEntries]
  | cons e entries ih =>
    obtain ⟨hlt, hordered⟩ := List.pairwise_cons.1 hordered
    have hlast : ∀ d ∈ t, d.1 < e.1 := fun d hd => h d hd e List.mem_cons_self
    have hmore : ∀ d ∈ t ++ [(e.1, Node.value e.2.item)], ∀ f ∈ entries, d.1 < f.1 := by
      intro d hd f hf
      rcases List.mem_append.1 hd with hd | hd
      · exact h d hd f (List.mem_cons_of_mem _ hf)
      · cases List.mem_singleton.1 hd
        exact hlt f hf
    have htail := ih hordered hmore
    simp only [defineAll] at htail ⊢
    rw [List.map_cons, List.foldlM_cons, entryOf, define_last hlast, Option.bind_eq_bind,
      Option.bind_some, htail]
    simp [readEntries]

/-- The entries in own lines begin a table. -/
theorem defineAll_ownEntries {entries : List (String × Value)} (hordered : Dict.Ordered entries) :
    defineAll [] ((Value.ownEntries entries).map entryOf) =
      some (readEntries (Value.ownEntries entries)) :=
  defineAll_entryOf (hordered.sublist List.filter_sublist) nofun

/-! ### New tables -/

variable {entries : List (String × Value)} {earlier : List Entries} {last : Entries}

theorem add_table (hordered : Dict.Ordered entries) (h : Dict.find? k t = none) :
    t.add ⟨⟨false, [], k⟩, Value.ownEntries entries⟩ =
      some (Dict.insert k (.table .header (readEntries (Value.ownEntries entries))) t) := by
  simp [add, addSection, changeAt, h, defineAll_ownEntries hordered]

theorem add_first_element (hordered : Dict.Ordered entries) (h : Dict.find? k t = none) :
    t.add ⟨⟨true, [], k⟩, Value.ownEntries entries⟩ =
      some (Dict.insert k (.tables [] (readEntries (Value.ownEntries entries))) t) := by
  simp [add, addSection, changeAt, h, defineAll_ownEntries hordered]

theorem add_element (hordered : Dict.Ordered entries) (t : Entries) :
    add (Dict.insert k (.tables earlier last) t) ⟨⟨true, [], k⟩, Value.ownEntries entries⟩ =
      some (Dict.insert k
        (.tables (earlier ++ [last]) (readEntries (Value.ownEntries entries))) t) := by
  simp [add, addSection, changeAt, Dict.find?_insert_self, defineAll_ownEntries hordered,
    insert_insert]

/-- A node that holds a table which longer headers go on with. -/
def IsSlot (slot : Entries → Node) : Prop :=
  ∀ k f t new, changeUnder k f (Dict.insert k (slot t) new) =
    (f t).map fun t => Dict.insert k (slot t) new

theorem isSlot_table (origin : Origin) : IsSlot (.table origin) := fun k f t new => by
  simp [changeUnder_of_table (Dict.find?_insert_self k _ new), insert_insert]

theorem isSlot_tables (earlier : List Entries) : IsSlot (.tables earlier) := fun k f t new => by
  simp [changeUnder_of_tables (Dict.find?_insert_self k _ new), insert_insert]

/-- Sections under one more key go on with the table there. -/
theorem foldlM_under_slot {slot : Entries → Node} (hslot : IsSlot slot) {sections : List Section}
    {former : Entries} (h : sections.foldlM add former = some last) (k : String) (t : Entries) :
    (sections.map (Section.under [k])).foldlM add (Dict.insert k (slot former) t) =
      some (Dict.insert k (slot last) t) := by
  cases sections with
  | nil =>
    cases h
    rfl
  | cons s sections => rw [foldlM_under k (List.cons_ne_nil _ _), hslot, h, Option.map_some]

end Entries

namespace Value

variable {k : String} {v : Value} {entries : List (String × Value)} {values : List Value}

/-- The sections of a value put it under its key. -/
def Places (k : String) (v : Value) : Prop :=
  ∃ n : Node, n.item = v.item ∧ ∀ t : Entries, Dict.find? k t = none →
    (v.outline k).foldlM Entries.add t = some (Dict.insert k n t)

/-- The sections for the entries of a table complete what its own lines begin. -/
def Completes (entries : List (String × Value)) : Prop :=
  ∃ t : Entries, itemsOf t = itemEntries entries ∧
    (innerOutline entries).foldlM Entries.add (readEntries (ownEntries entries)) = some t

/-! ## Tables -/

theorem places_table (hordered : Dict.Ordered entries) (h : Completes entries) (k : String) :
    Places k (.table entries) := by
  obtain ⟨t, hitems, hfold⟩ := h
  by_cases hheader : (ownEntries entries).isEmpty && !(innerOutline entries).isEmpty
  · simp only [Bool.and_eq_true, Bool.not_eq_true', List.isEmpty_iff, List.isEmpty_eq_false_iff]
      at hheader
    rw [hheader.1] at hfold
    refine ⟨.table .implied t, by rw [Node.item, hitems, item], fun new hnew => ?_⟩
    have hinner : (Value.table entries).outline k =
        (innerOutline entries).map (Section.under [k]) := by simp [outline, hheader]
    have hfold : (innerOutline entries).foldlM Entries.add [] = some t := hfold
    rw [hinner, Entries.foldlM_under k hheader.2, Entries.changeUnder_of_none hnew, hfold,
      Option.map_some]
  · refine ⟨.table .header t, by rw [Node.item, hitems, item], fun new hnew => ?_⟩
    have houtline : (Value.table entries).outline k = ⟨⟨false, [], k⟩, ownEntries entries⟩ ::
        (innerOutline entries).map (Section.under [k]) := by simp [outline, hheader]
    rw [houtline, List.foldlM_cons, Entries.add_table hordered hnew]
    exact Entries.foldlM_under_slot (Entries.isSlot_table _) hfold k new

/-! ## Arrays of tables -/

theorem tablesOf_append (a b : List (List (String × Node))) :
    tablesOf (a ++ b) = tablesOf a ++ tablesOf b := by
  induction a with
  | nil => rfl
  | cons t a ih => rw [List.cons_append, tablesOf, tablesOf, ih, List.cons_append]

/-- Tables that their sections complete. -/
def CompleteTables (values : List Value) : Prop :=
  ∀ v ∈ values, ∃ entries, v = .table entries ∧ Dict.Ordered entries ∧ Completes entries

/-- Further elements are added after those that are there. -/
theorem foldlM_elementOutline (h : CompleteTables values) (k : String) (earlier : List Entries)
    (last : Entries) :
    ∃ n : Node, n.item = .array (tablesOf earlier ++ .table (itemsOf last) :: items values) ∧
      ∀ t : Entries, (elementOutline k values).foldlM Entries.add
        (Dict.insert k (.tables earlier last) t) = some (Dict.insert k n t) := by
  induction values generalizing earlier last with
  | nil => exact ⟨.tables earlier last, rfl, fun _ => rfl⟩
  | cons v values ih =>
    obtain ⟨⟨entries, rfl, hordered, new, hitems, hfold⟩, hvalues⟩ := List.forall_mem_cons.1 h
    obtain ⟨n, hn, hmore⟩ := ih hvalues (earlier ++ [last]) new
    refine ⟨n, ?_, fun t => ?_⟩
    · simp [hn, tablesOf_append, tablesOf, items, item, hitems]
    · have hinner := Entries.foldlM_under_slot (Entries.isSlot_tables (earlier ++ [last])) hfold k t
      rw [elementOutline, List.foldlM_append, List.foldlM_cons, Entries.add_element hordered]
      simp only [Option.bind_eq_bind, Option.bind_some, hinner, hmore]

theorem places_array (hne : values ≠ []) (h : CompleteTables values) (k : String) :
    Places k (.array values) := by
  cases values with
  | nil => exact absurd rfl hne
  | cons v values =>
    obtain ⟨⟨entries, rfl, hordered, first, hitems, hfold⟩, hvalues⟩ := List.forall_mem_cons.1 h
    obtain ⟨n, hn, hmore⟩ := foldlM_elementOutline hvalues k [] first
    refine ⟨n, ?_, fun t ht => ?_⟩
    · simp [hn, tablesOf, items, item, hitems]
    · have hinner := Entries.foldlM_under_slot (Entries.isSlot_tables []) hfold k t
      rw [outline, elementOutline, List.foldlM_append, List.foldlM_cons,
        Entries.add_first_element hordered ht]
      simp only [Option.bind_eq_bind, Option.bind_some, hinner, hmore]

/-! ## All entries of a table -/

theorem mem_readEntries_ownEntries {d : String × Node}
    (h : d ∈ readEntries (ownEntries entries)) : ∃ e ∈ entries, d.1 = e.1 := by
  obtain ⟨e, he, rfl⟩ := List.mem_map.1 h
  exact ⟨e, (List.mem_filter.1 he).1, rfl⟩

/-- **The sections for the entries of a table complete it**, where `done` are the entries before. -/
theorem foldlM_innerOutline (hordered : Dict.Ordered entries)
    (h : ∀ e ∈ entries, e.2.isSection = true → Places e.1 e.2) {done : Entries}
    (hdone : ∀ d ∈ done, ∀ e ∈ entries, d.1 < e.1) :
    ∃ t : Entries, itemsOf t = itemEntries entries ∧
      (innerOutline entries).foldlM Entries.add (done ++ readEntries (ownEntries entries)) =
        some (done ++ t) := by
  induction entries generalizing done with
  | nil => exact ⟨[], rfl, rfl⟩
  | cons e entries ih =>
    obtain ⟨hlt, hordered⟩ := List.pairwise_cons.1 hordered
    obtain ⟨he, hentries⟩ := List.forall_mem_cons.1 h
    have hmore : ∀ n : Node, ∀ d ∈ done ++ [(e.1, n)], ∀ f ∈ entries, d.1 < f.1 := by
      intro n d hd f hf
      rcases List.mem_append.1 hd with hd | hd
      · exact hdone d hd f (List.mem_cons_of_mem _ hf)
      · cases List.mem_singleton.1 hd
        exact hlt f hf
    cases hsection : e.2.isSection with
    | false =>
      obtain ⟨t, ht, hfold⟩ := ih hordered hentries (hmore (.value e.2.item))
      refine ⟨(e.1, .value e.2.item) :: t, by simp [itemsOf, Node.item, itemEntries, ht], ?_⟩
      simpa [innerOutline, ownEntries, hsection, readEntries] using hfold
    | true =>
      obtain ⟨n, hn, hplace⟩ := he hsection
      obtain ⟨t, ht, hfold⟩ := ih hordered hentries (hmore n)
      have hbefore : ∀ d ∈ done, d.1 < e.1 := fun d hd => hdone d hd e List.mem_cons_self
      have hafter : ∀ d ∈ readEntries (ownEntries entries), e.1 < d.1 := fun d hd => by
        obtain ⟨f, hf, hd⟩ := mem_readEntries_ownEntries hd
        exact hd ▸ hlt f hf
      have hnew : Dict.find? e.1 (done ++ readEntries (ownEntries entries)) = none :=
        Dict.find?_eq_none fun d hd => (List.mem_append.1 hd).elim
          (fun hd => (String.ne_of_lt (hbefore d hd)).symm) fun hd => String.ne_of_lt (hafter d hd)
      have hinsert := Dict.insert_between (fun _ _ => String.lt_asymm) hbefore hafter n
      refine ⟨(e.1, n) :: t, by simp [itemsOf, itemEntries, hn, ht], ?_⟩
      have hown : ownEntries (e :: entries) = ownEntries entries := by simp [ownEntries, hsection]
      rw [hown, innerOutline, if_pos hsection, List.foldlM_append, hplace _ hnew, hinsert]
      simpa using hfold

/-! ## Sound values -/

/-- The tables that a value is, or that are its elements, are completed by their sections. -/
def TablesComplete : Value → Prop
  | .table entries => Completes entries
  | .array values => ∀ entries, .table entries ∈ values → Completes entries
  | _ => True

theorem Sound.places (h : v.Sound) (hcomplete : v.TablesComplete) (hsection : v.isSection = true)
    (k : String) : Places k v := by
  cases h with
  | table hordered _ _ => exact places_table hordered hcomplete k
  | @array values hsound =>
    simp only [isSection, Bool.and_eq_true, Bool.not_eq_true', List.isEmpty_eq_false_iff,
      List.all_eq_true] at hsection
    refine places_array hsection.1 (fun v hv => ?_) k
    have htable := hsection.2 v hv
    cases hsound v hv with
    | table hordered _ _ => exact ⟨_, rfl, hordered, hcomplete _ hv⟩
    | _ => cases htable
  | _ => cases hsection

theorem completes_of_places (hordered : Dict.Ordered entries)
    (h : ∀ e ∈ entries, e.2.isSection = true → Places e.1 e.2) : Completes entries := by
  have hnone : ∀ d ∈ ([] : Entries), ∀ e ∈ entries, d.1 < e.1 := nofun
  obtain ⟨t, ht, hfold⟩ := foldlM_innerOutline hordered h hnone
  exact ⟨t, ht, hfold⟩

theorem Sound.tablesComplete (h : v.Sound) : v.TablesComplete := by
  induction h with
  | table hordered _ hsound ih =>
    exact completes_of_places hordered fun e he hsection =>
      (hsound e he).places (ih e he) hsection e.1
  | array _ ih => exact fun entries hentries => ih _ hentries
  | _ => trivial

/-- **The sections of a table in order, whose values are sound, complete it.** -/
theorem completes_of_sound (hordered : Dict.Ordered entries) (h : ∀ e ∈ entries, e.2.Sound) :
    Completes entries :=
  completes_of_places hordered fun e he hsection =>
    (h e he).places (h e he).tablesComplete hsection e.1

end Value

end Downstream.Toml
