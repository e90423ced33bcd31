import Downstream.Proofs.Toml.Assembly
import Downstream.Proofs.Toml.Statement

/-!
# The lines of a document as statements

A document that is read says what the statements of its lines come to (`Statement.run_ofLines`): how
its tables came to be decides whether it is read, and nothing else. So two documents whose
statements are the same in other words are one (`eq_of_sameStatements`).
-/

namespace Downstream.Toml

open Statement (step)

/-! ## Entries and their items -/

theorem find?_itemsOf (k : String) (t : Entries) :
    Dict.find? k (itemsOf t) = (Dict.find? k t).map Node.item := by
  induction t with
  | nil => rfl
  | cons e t ih =>
    rw [itemsOf, Dict.find?, Dict.find?, ih]
    split <;> rfl

theorem itemsOf_insert (k : String) (n : Node) (t : Entries) :
    itemsOf (Dict.insert k n t) = Dict.insert k n.item (itemsOf t) := by
  induction t with
  | nil => rfl
  | cons e t ih =>
    rw [itemsOf, Dict.insert, Dict.insert]
    split
    · rfl
    split
    · rfl
    · rw [itemsOf, ih]

namespace Entries

variable {t t' : Entries} {k : String} {h : Option Item → Item}

/-- **A change somewhere in the entries changes their items there.** -/
theorem items_of_changeAt {dotted : Bool} {change : Bool → Entries → Option Entries}
    (hchange : ∀ here t t', change here t = some t' →
      itemsOf t' = Dict.insert k (h (Dict.find? k (itemsOf t))) (itemsOf t)) {here : Bool}
    {path : List String} (ht : t.changeAt dotted change here path = some t') :
    Item.table (itemsOf t') = Item.changeAt h (path ++ [k]) (some (.table (itemsOf t))) := by
  induction path generalizing here t t' with
  | nil =>
    rw [hchange here t t' ht]
    rfl
  | cons l path ih =>
    -- the path goes on, so what is under its first key changes as a table does
    obtain ⟨f, hf⟩ : ∃ f, Item.changeAt h (path ++ [k]) = Item.changeTable f := by
      cases path <;> exact ⟨_, funext fun _ => rfl⟩
    have hunder : ∀ {here : Bool} {t t' : Entries}, t.changeAt dotted change here path = some t' →
        Item.table (itemsOf t') = Item.changeTable f (some (.table (itemsOf t))) :=
      fun hnew => (ih hnew).trans (congrFun hf _)
    have hgoal : ∀ {n : Option Node} {new : Node}, Dict.find? l t = n →
        new.item = Item.changeTable f (n.map Node.item) →
        Item.table (itemsOf (Dict.insert l new t)) =
          Item.changeAt h (l :: path ++ [k]) (some (.table (itemsOf t))) := by
      intro n new hn hnew
      rw [itemsOf_insert, hnew, List.cons_append, Item.changeAt, hf, ← hn, ← find?_itemsOf]
      rfl
    rw [Entries.changeAt] at ht
    split at ht
    next hfind =>
      obtain ⟨new, hnew, ht⟩ := Option.bind_eq_some_iff.1 ht
      cases ht
      exact hgoal hfind (hunder hnew)
    next origin former hfind =>
      split at ht
      · cases ht
      · obtain ⟨new, hnew, ht⟩ := Option.bind_eq_some_iff.1 ht
        cases ht
        exact hgoal hfind (hunder hnew)
    next earlier last hfind =>
      obtain ⟨new, hnew, ht⟩ := Option.bind_eq_some_iff.1 ht
      cases ht
      refine hgoal hfind ?_
      rw [Option.map_some, Node.item, Node.item, Item.changeTable_array, hunder hnew]
      rfl
    · cases ht

end Entries

/-! ## Lines -/

namespace Statement

/-- What a line with a value says about the table that it is in. -/
def ofEntry (e : Entry) : Statement :=
  value (e.path ++ [e.key]) e.value

/-- What a header says. -/
def ofHeader (h : Header) : Statement :=
  if h.isElement then element (h.path ++ [h.key]) else table (h.path ++ [h.key])

/-- What lines say, given the keys of the header that they stand under. -/
def ofLines : (here : List String) → List Line → List Statement
  | _, [] => []
  | here, .entry e :: rest => (ofEntry e).under here :: ofLines here rest
  | _, .header h :: rest => ofHeader h :: ofLines (h.path ++ [h.key]) rest

theorem path_ofHeader (h : Header) : (ofHeader h).path = h.path ++ [h.key] := by
  unfold ofHeader
  split <;> rfl

/-- What a header and its lines say. -/
def ofSection (s : Header × List Entry) : List Statement :=
  ofHeader s.1 :: (s.2.map ofEntry).map (under (s.1.path ++ [s.1.key]))

theorem ofLines_eq (here : List String) (lines : List Line) :
    ofLines here lines =
      ((leading lines).map ofEntry).map (under here) ++ (sections lines).flatMap ofSection := by
  induction lines generalizing here with
  | nil => rfl
  | cons l lines ih =>
    cases l with
    | entry e => rw [ofLines, ih]; rfl
    | header h => rw [ofLines, ih]; rfl

/-- Statements about places in the last table of something leave it such a thing. -/
theorem foldl_step_slot (slot : List (String × Item) → Item)
    (hslot : ∀ f entries, Item.changeTable f (some (slot entries)) = slot (f entries))
    {l : List Statement} (hpath : ∀ s ∈ l, s.path ≠ []) (entries : List (String × Item)) :
    ∃ new, l.foldl step (.table entries) = .table new ∧ l.foldl step (slot entries) = slot new := by
  induction l generalizing entries with
  | nil => exact ⟨entries, rfl, rfl⟩
  | cons s l ih =>
    obtain ⟨hs, hl⟩ := List.forall_mem_cons.1 hpath
    obtain ⟨f, hf⟩ : ∃ f, Item.changeAt s.change s.path = Item.changeTable f := by
      obtain ⟨k, path, heq⟩ := List.exists_cons_of_ne_nil hs
      rw [heq]
      exact ⟨_, funext fun _ => rfl⟩
    rw [List.foldl_cons, List.foldl_cons, step, step, hf, hslot]
    exact ih hl (f entries)

end Statement

namespace Entries

open Statement (ofEntry ofHeader ofLines ofSection under)

variable {t t' : Entries}

theorem items_of_define {e : Entry} (h : t.define e.path e.key e.value = some t') :
    Item.table (itemsOf t') = step (.table (itemsOf t)) (ofEntry e) := by
  refine items_of_changeAt (h := fun _ => e.value) (fun here t t' h => ?_) h
  split at h
  · cases h
  split at h
  · cases h
  · cases h
    exact itemsOf_insert e.key (.value e.value) t

theorem items_of_defineAll {lines : List Entry} (h : t.defineAll lines = some t') :
    Item.table (itemsOf t') = (lines.map ofEntry).foldl step (.table (itemsOf t)) := by
  rw [defineAll] at h
  induction lines generalizing t with
  | nil =>
    cases h
    rfl
  | cons e lines ih =>
    rw [List.foldlM_cons] at h
    obtain ⟨new, hnew, h⟩ := Option.bind_eq_some_iff.1 h
    rw [List.map_cons, List.foldl_cons, ← items_of_define hnew]
    exact ih h

/-- Lines under the header of an array change its last table as they would change it alone. -/
theorem foldl_step_element {lines : List Entry} (items : List Item)
    (h : defineAll [] lines = some t) :
    (lines.map ofEntry).foldl step (.array (items ++ [.table []])) =
      .array (items ++ [.table (itemsOf t)]) := by
  have hpath : ∀ s ∈ lines.map ofEntry, s.path ≠ [] := fun s hs => by
    obtain ⟨e, -, rfl⟩ := List.mem_map.1 hs
    exact List.append_ne_nil_of_right_ne_nil _ (List.cons_ne_nil _ _)
  obtain ⟨entries, htable, harray⟩ := Statement.foldl_step_slot
    (fun entries => .array (items ++ [.table entries]))
    (fun f => Item.changeTable_array f items) hpath []
  rw [harray, items_of_defineAll h]
  exact congrArg (fun i => Item.array (items ++ [i])) htable.symm

theorem items_of_addSection {s : Header × List Entry} (h : t.addSection s.1 s.2 = some t') :
    Item.table (itemsOf t') = (ofSection s).foldl step (.table (itemsOf t)) := by
  obtain ⟨header, lines⟩ := s
  have hitems := items_of_changeAt (k := header.key)
    (h := fun o => (lines.map ofEntry).foldl step ((ofHeader header).change o))
    (fun here t t' h => ?_) h
  · rw [hitems, Statement.changeAt_foldl_step, ofSection, List.foldl_cons, step,
      Statement.path_ofHeader]
  · have hinsert : ∀ {n : Node}, (lines.map ofEntry).foldl step
        ((ofHeader header).change ((Dict.find? header.key t).map Node.item)) = n.item →
        itemsOf (Dict.insert header.key n t) = Dict.insert header.key
          ((lines.map ofEntry).foldl step
            ((ofHeader header).change (Dict.find? header.key (itemsOf t)))) (itemsOf t) :=
      fun hn => by rw [itemsOf_insert, find?_itemsOf, hn]
    split at h
    next hfind helement =>
      obtain ⟨new, hnew, h⟩ := Option.bind_eq_some_iff.1 h
      cases h
      refine hinsert ?_
      rw [hfind, ofHeader, helement]
      exact (items_of_defineAll hnew).symm
    next hfind helement =>
      obtain ⟨new, hnew, h⟩ := Option.bind_eq_some_iff.1 h
      cases h
      refine hinsert ?_
      rw [hfind, ofHeader, helement]
      exact foldl_step_element [] hnew
    next former hfind helement =>
      obtain ⟨new, hnew, h⟩ := Option.bind_eq_some_iff.1 h
      cases h
      refine hinsert ?_
      rw [hfind, ofHeader, helement]
      exact (items_of_defineAll hnew).symm
    next earlier last hfind helement =>
      obtain ⟨new, hnew, h⟩ := Option.bind_eq_some_iff.1 h
      cases h
      refine hinsert ?_
      rw [hfind, ofHeader, helement, Node.item, Value.tablesOf_append]
      exact foldl_step_element (tablesOf earlier ++ [.table (itemsOf last)]) hnew
    · cases h

/-- **A document says what the statements of its lines come to.** -/
theorem items_of_ofLines? {lines : List Line} (h : ofLines? lines = some t) :
    Item.table (itemsOf t) = Statement.run (ofLines [] lines) := by
  obtain ⟨first, hfirst, h⟩ := Option.bind_eq_some_iff.1 h
  have hleading : ((leading lines).map ofEntry).map (under []) = (leading lines).map ofEntry := by
    rw [List.map_map]
    exact List.map_congr_left fun e _ => rfl
  rw [Statement.run, Statement.ofLines_eq, hleading, List.foldl_append]
  have hitems := items_of_defineAll hfirst
  rw [itemsOf] at hitems
  rw [← hitems]
  generalize sections lines = rest at h
  clear hfirst hitems hleading
  induction rest generalizing first with
  | nil =>
    cases h
    rfl
  | cons s rest ih =>
    rw [List.foldlM_cons] at h
    obtain ⟨next, hnext, h⟩ := Option.bind_eq_some_iff.1 h
    rw [List.flatMap_cons, List.foldl_append, ← items_of_addSection hnext]
    exact ih next h

end Entries

/-! ## Texts -/

/-- The lines of a text. -/
def linesOf? (text : String) : Option (List Line) :=
  let s := match text.toList with
    | '\ufeff' :: rest => rest
    | s => s
  lines? (s.length + 1) [] s

/-- The document that a text is read as says what the statements of its lines come to. -/
theorem run_of_read? {text : String} {fields : Dict String Item} (h : read? text = some fields) :
    ∃ lines, linesOf? text = some lines ∧
      Item.table fields = Statement.run (Statement.ofLines [] lines) := by
  obtain ⟨lines, hlines, h⟩ := Option.bind_eq_some_iff.1 h
  obtain ⟨entries, hentries, h⟩ := Option.bind_eq_some_iff.1 h
  cases h
  exact ⟨lines, hlines, Entries.items_of_ofLines? hentries⟩

/-- The texts say the same, perhaps in other words and in another order. -/
def SameStatements (text text' : String) : Prop :=
  ∃ lines lines', linesOf? text = some lines ∧ linesOf? text' = some lines' ∧
    Relation.EqvGen Statement.Rephrase (Statement.ofLines [] lines) (Statement.ofLines [] lines')

/-- **Two documents that say the same in other words are one.** -/
theorem eq_of_sameStatements {text text' : String} {fields fields' : Dict String Item}
    (hsame : SameStatements text text') (h : read? text = some fields)
    (h' : read? text' = some fields') : fields' = fields := by
  obtain ⟨lines, lines', hlines, hlines', heqv⟩ := hsame
  obtain ⟨_, hread, hfields⟩ := run_of_read? h
  obtain ⟨_, hread', hfields'⟩ := run_of_read? h'
  cases hlines.symm.trans hread
  cases hlines'.symm.trans hread'
  have heq := hfields'.trans ((Statement.run_eq_of_eqvGen heqv).symm.trans hfields.symm)
  exact Item.table.inj heq

end Downstream.Toml
