import Downstream.Proofs.Toml.Value
import Downstream.Toml.Reader

/-!
# What is read is in order

The tables of a document that is read are in ascending order of their keys, at every level
(`read?_inOrder`). Each step of the reader keeps this: a value is put together from values in order,
and a table changes by `Dict.insert` only. So the values that are found in a document are sound
(`Item.InOrder.sound`).
-/

namespace Downstream.Toml

/-! ## Items in order -/

/-- All tables in an item are in order. -/
inductive Item.InOrder : Item → Prop where
  | string (s : String) : Item.InOrder (.string s)
  | integer (n : Int) : Item.InOrder (.integer n)
  | unreadable : Item.InOrder .unreadable
  | float (x : Numeral) : Item.InOrder (.float x)
  | boolean (b : Bool) : Item.InOrder (.boolean b)
  | moment (m : Moment) : Item.InOrder (.moment m)
  | array {items : List Item} (h : ∀ i ∈ items, Item.InOrder i) : Item.InOrder (.array items)
  | table {entries : List (String × Item)} (hordered : Dict.Ordered entries)
    (h : ∀ e ∈ entries, Item.InOrder e.2) : Item.InOrder (.table entries)

namespace Value

theorem sound_of_ofItems? {items : List Item} {values : List Value}
    (h : ∀ i ∈ items, ∀ v, ofItem? i = some v → v.Sound) (hvalues : ofItems? items = some values) :
    ∀ v ∈ values, v.Sound := by
  induction items generalizing values with
  | nil =>
    cases hvalues
    exact nofun
  | cons i items ih =>
    obtain ⟨hi, hitems⟩ := List.forall_mem_cons.1 h
    simp only [ofItems?, Option.bind_eq_bind, Option.bind_eq_some_iff, Option.pure_def,
      Option.some.injEq] at hvalues
    obtain ⟨v, hv, rest, hrest, rfl⟩ := hvalues
    exact List.forall_mem_cons.2 ⟨hi v hv, ih hitems hrest⟩

/-- The entries have the same keys, and sound values. -/
theorem sound_of_ofEntries? {entries : List (String × Item)} {values : List (String × Value)}
    (h : ∀ e ∈ entries, ∀ v, ofItem? e.2 = some v → v.Sound)
    (hvalues : ofEntries? entries = some values) :
    values.map Prod.fst = entries.map Prod.fst ∧ ∀ e ∈ values, e.2.Sound := by
  induction entries generalizing values with
  | nil =>
    cases hvalues
    exact ⟨rfl, nofun⟩
  | cons e entries ih =>
    obtain ⟨k, i⟩ := e
    obtain ⟨hi, hentries⟩ := List.forall_mem_cons.1 h
    simp only [ofEntries?, Option.bind_eq_bind, Option.bind_eq_some_iff, Option.pure_def,
      Option.some.injEq] at hvalues
    obtain ⟨v, hv, rest, hrest, rfl⟩ := hvalues
    obtain ⟨hkeys, hsound⟩ := ih hentries hrest
    exact ⟨by rw [List.map_cons, List.map_cons, hkeys],
      List.forall_mem_cons.2 ⟨hi v hv, hsound⟩⟩

theorem ordered_iff_keys {α : Type} {d : Dict String α} :
    Dict.Ordered d ↔ (d.map Prod.fst).Pairwise (· < ·) :=
  List.pairwise_map.symm

/-- A table that does not stand for a moment does not start like one. -/
theorem standsForItself_of_momentText? {entries : List (String × Item)}
    {values : List (String × Value)} (h : momentText? entries = none)
    (hkeys : values.map Prod.fst = entries.map Prod.fst) : StandsForItself values := by
  intro e he
  have hhead : e.1 ∈ (entries.map Prod.fst).head? := by
    rw [← hkeys, List.head?_map]
    exact Option.mem_map_of_mem _ he
  cases entries with
  | nil => cases hhead
  | cons f entries =>
    have hkey : f.1 = e.1 := by simpa using hhead
    intro he
    obtain ⟨k, i⟩ := f
    obtain rfl : k = momentKey := hkey.trans he
    cases i <;> simp [momentText?] at h

end Value

/-- **The value of an item in order is sound.** -/
theorem Item.InOrder.sound {i : Item} (h : i.InOrder) :
    ∀ {v : Value}, Value.ofItem? i = some v → v.Sound := by
  induction h with
  | string s =>
    rintro _ ⟨⟩
    exact .string s
  | integer n =>
    intro v hv
    obtain ⟨m, -, rfl⟩ := Option.map_eq_some_iff.1 hv
    exact .integer m
  | unreadable => exact nofun
  | float x =>
    intro v hv
    obtain ⟨y, -, rfl⟩ := Option.map_eq_some_iff.1 hv
    exact .float y
  | boolean b =>
    rintro _ ⟨⟩
    exact .boolean b
  | moment m =>
    rintro _ ⟨⟩
    exact .moment m
  | array _ ih =>
    intro v hv
    obtain ⟨values, hvalues, rfl⟩ := Option.map_eq_some_iff.1 hv
    exact .array (Value.sound_of_ofItems? (fun i hi v => ih i hi) hvalues)
  | @table entries hordered _ ih =>
    intro v hv
    rw [Value.ofItem?] at hv
    split at hv
    next =>
      obtain ⟨m, -, rfl⟩ := Option.map_eq_some_iff.1 hv
      exact .moment m
    next hmoment =>
      obtain ⟨values, hvalues, rfl⟩ := Option.map_eq_some_iff.1 hv
      obtain ⟨hkeys, hsound⟩ := Value.sound_of_ofEntries? (fun e he v => ih e he) hvalues
      refine .table ?_ (Value.standsForItself_of_momentText? hmoment hkeys) hsound
      rwa [Value.ordered_iff_keys, hkeys, ← Value.ordered_iff_keys]

/-! ## Nodes in order -/

/-- All tables in a node are in order. -/
inductive Node.InOrder : Node → Prop where
  | value {i : Item} (h : i.InOrder) : Node.InOrder (.value i)
  | table (origin : Origin) {entries : List (String × Node)} (hordered : Dict.Ordered entries)
    (h : ∀ e ∈ entries, Node.InOrder e.2) : Node.InOrder (.table origin entries)
  | tables {earlier : List (List (String × Node))} {last : List (String × Node)}
    (hearlier : ∀ t ∈ earlier, Dict.Ordered t) (hin : ∀ t ∈ earlier, ∀ e ∈ t, Node.InOrder e.2)
    (hlast : Dict.Ordered last) (h : ∀ e ∈ last, Node.InOrder e.2) :
    Node.InOrder (.tables earlier last)

/-- The entries of a table are in order. -/
structure Entries.InOrder (t : Entries) : Prop where
  ordered : Dict.Ordered t
  nodes : ∀ e ∈ t, Node.InOrder e.2

/-! ### Their items -/

theorem keys_itemsOf (t : Entries) : (itemsOf t).map Prod.fst = t.map Prod.fst := by
  induction t with
  | nil => rfl
  | cons e t ih => rw [itemsOf, List.map_cons, List.map_cons, ih]

theorem forall_mem_itemsOf {t : Entries} {p : Item → Prop} (h : ∀ e ∈ t, p e.2.item) :
    ∀ e ∈ itemsOf t, p e.2 := by
  induction t with
  | nil => exact nofun
  | cons e t ih =>
    obtain ⟨he, ht⟩ := List.forall_mem_cons.1 h
    exact List.forall_mem_cons.2 ⟨he, ih ht⟩

theorem inOrder_itemsOf {t : Entries} (hordered : Dict.Ordered t)
    (h : ∀ e ∈ t, e.2.item.InOrder) : (Item.table (itemsOf t)).InOrder := by
  refine .table ?_ (forall_mem_itemsOf h)
  rwa [Value.ordered_iff_keys, keys_itemsOf, ← Value.ordered_iff_keys]

theorem mem_tablesOf {ts : List (List (String × Node))} {i : Item} (h : i ∈ tablesOf ts) :
    ∃ t ∈ ts, i = .table (itemsOf t) := by
  induction ts with
  | nil => cases h
  | cons t ts ih =>
    rcases List.mem_cons.1 h with rfl | h
    · exact ⟨t, List.mem_cons_self, rfl⟩
    · obtain ⟨t', ht', rfl⟩ := ih h
      exact ⟨t', List.mem_cons_of_mem _ ht', rfl⟩

theorem Node.InOrder.item {n : Node} (h : n.InOrder) : n.item.InOrder := by
  induction h with
  | value h => exact h
  | table origin hordered _ ih => exact inOrder_itemsOf hordered ih
  | tables hearlier _ hlast _ ihearlier ih =>
    refine .array (List.forall_mem_append.2 ⟨fun i hi => ?_, ?_⟩)
    · obtain ⟨t, ht, rfl⟩ := mem_tablesOf hi
      exact inOrder_itemsOf (hearlier t ht) (ihearlier t ht)
    · exact List.forall_mem_singleton.2 (inOrder_itemsOf hlast ih)

/-! ### Changes -/

namespace Entries

variable {t t' : Entries}

theorem inOrder_nil : InOrder [] :=
  ⟨.nil, nofun⟩

theorem InOrder.insert (h : InOrder t) {n : Node} (hn : n.InOrder) (k : String) :
    InOrder (Dict.insert k n t) where
  ordered := Dict.ordered_insert (fun _ _ _ => String.lt_trans) Std.lt_trichotomy k n h.ordered
  nodes e he := by
    rcases Dict.mem_insert he with rfl | he
    · exact hn
    · exact h.nodes e he

theorem InOrder.find? (h : InOrder t) {k : String} {n : Node} (hn : Dict.find? k t = some n) :
    n.InOrder :=
  h.nodes _ (Dict.mem_of_find? hn)

/-- **A change somewhere in a table keeps the order** if it does so there. -/
theorem InOrder.changeAt {dotted : Bool} {change : Bool → Entries → Option Entries}
    (hchange : ∀ here t t', InOrder t → change here t = some t' → InOrder t') {here : Bool}
    {path : List String} (h : InOrder t) (ht : t.changeAt dotted change here path = some t') :
    InOrder t' := by
  induction path generalizing here t t' with
  | nil => exact hchange here t t' h ht
  | cons k path ih =>
    have hinsert : ∀ {new : Option Entries} {slot : Entries → Node},
        (∀ t, new = some t → Node.InOrder (slot t)) →
          (do let t' ← new; return Dict.insert k (slot t') t) = some t' → InOrder t' := by
      intro new slot hslot ht
      simp only [Option.bind_eq_bind, Option.bind_eq_some_iff, Option.pure_def,
        Option.some.injEq] at ht
      obtain ⟨new, hnew, rfl⟩ := ht
      exact h.insert (hslot new hnew) k
    rw [Entries.changeAt] at ht
    split at ht
    next =>
      refine hinsert (fun new hnew => ?_) ht
      have hin := ih inOrder_nil hnew
      exact .table _ hin.ordered hin.nodes
    next origin former hfind =>
      split at ht
      · cases ht
      · refine hinsert (fun new hnew => ?_) ht
        cases h.find? hfind with
        | table _ hordered hnodes =>
          have hin := ih ⟨hordered, hnodes⟩ hnew
          exact .table _ hin.ordered hin.nodes
    next earlier last hfind =>
      refine hinsert (fun new hnew => ?_) ht
      cases h.find? hfind with
      | tables hearlier hin hlast hnodes =>
        have hnew := ih ⟨hlast, hnodes⟩ hnew
        exact .tables hearlier hin hnew.ordered hnew.nodes
    · cases ht

theorem InOrder.define (h : InOrder t) {path : List String} {k : String} {i : Item} (hi : i.InOrder)
    (ht : t.define path k i = some t') : InOrder t' := by
  refine h.changeAt (fun here t t' h ht => ?_) ht
  split at ht
  · cases ht
  split at ht
  · cases ht
  · cases ht
    exact h.insert (.value hi) k

theorem InOrder.defineAll (h : InOrder t) {lines : List Entry} (hlines : ∀ l ∈ lines, l.value.InOrder)
    (ht : t.defineAll lines = some t') : InOrder t' := by
  rw [Entries.defineAll] at ht
  induction lines generalizing t with
  | nil =>
    cases ht
    exact h
  | cons l lines ih =>
    obtain ⟨hl, hlines⟩ := List.forall_mem_cons.1 hlines
    rw [List.foldlM_cons, Option.bind_eq_bind, Option.bind_eq_some_iff] at ht
    obtain ⟨new, hnew, ht⟩ := ht
    exact ih (h.define hl hnew) hlines ht

theorem InOrder.addSection (h : InOrder t) {header : Header} {lines : List Entry}
    (hlines : ∀ l ∈ lines, l.value.InOrder) (ht : t.addSection header lines = some t') :
    InOrder t' := by
  have hinsert : ∀ {former : Entries} {slot : Entries → Node} {t t' : Entries}, InOrder t →
      InOrder former → (∀ t, InOrder t → Node.InOrder (slot t)) →
        (do let new ← former.defineAll lines; return Dict.insert header.key (slot new) t) =
          some t' → InOrder t' := by
    intro former slot t t' h hformer hslot ht
    simp only [Option.bind_eq_bind, Option.bind_eq_some_iff, Option.pure_def,
      Option.some.injEq] at ht
    obtain ⟨new, hnew, rfl⟩ := ht
    exact h.insert (hslot new (hformer.defineAll hlines hnew)) _
  refine h.changeAt (fun here t t' h ht => ?_) ht
  split at ht
  · exact hinsert h inOrder_nil (fun t ht => .table _ ht.ordered ht.nodes) ht
  · exact hinsert h inOrder_nil (fun t ht =>
      .tables (List.forall_mem_nil _) (List.forall_mem_nil _) ht.ordered ht.nodes) ht
  next former hfind _ =>
    cases h.find? hfind with
    | table _ hordered hnodes =>
      exact hinsert h ⟨hordered, hnodes⟩ (fun t ht => .table _ ht.ordered ht.nodes) ht
  next earlier last hfind _ =>
    cases h.find? hfind with
    | tables hearlier hin hlast hnodes =>
      refine hinsert h inOrder_nil (fun t ht => .tables ?_ ?_ ht.ordered ht.nodes) ht
      · exact List.forall_mem_append.2 ⟨hearlier, List.forall_mem_singleton.2 hlast⟩
      · exact List.forall_mem_append.2 ⟨hin, List.forall_mem_singleton.2 hnodes⟩
  · cases ht

end Entries

/-- The value in a line is in order. -/
def Line.InOrder : Line → Prop
  | .entry e => e.value.InOrder
  | .header _ => True

theorem inOrder_leading {lines : List Line} (h : ∀ l ∈ lines, l.InOrder) :
    ∀ e ∈ leading lines, e.value.InOrder := by
  induction lines with
  | nil => exact nofun
  | cons l lines ih =>
    obtain ⟨hl, hlines⟩ := List.forall_mem_cons.1 h
    cases l with
    | entry e => exact List.forall_mem_cons.2 ⟨hl, ih hlines⟩
    | header _ => exact nofun

theorem inOrder_sections {lines : List Line} (h : ∀ l ∈ lines, l.InOrder) :
    ∀ s ∈ sections lines, ∀ e ∈ s.2, e.value.InOrder := by
  induction lines with
  | nil => exact nofun
  | cons l lines ih =>
    obtain ⟨-, hlines⟩ := List.forall_mem_cons.1 h
    cases l with
    | entry _ => exact ih hlines
    | header _ => exact List.forall_mem_cons.2 ⟨inOrder_leading hlines, ih hlines⟩

theorem Entries.inOrder_ofLines? {lines : List Line} (h : ∀ l ∈ lines, l.InOrder) {t : Entries}
    (ht : Entries.ofLines? lines = some t) : t.InOrder := by
  simp only [Entries.ofLines?, Option.bind_eq_bind, Option.bind_eq_some_iff] at ht
  obtain ⟨first, hfirst, ht⟩ := ht
  replace hfirst := Entries.inOrder_nil.defineAll (inOrder_leading h) hfirst
  have hsections := inOrder_sections h
  generalize sections lines = rest at ht hsections
  induction rest generalizing first with
  | nil =>
    cases ht
    exact hfirst
  | cons s rest ih =>
    obtain ⟨hs, hrest⟩ := List.forall_mem_cons.1 hsections
    simp only [List.foldlM_cons, Option.bind_eq_bind, Option.bind_eq_some_iff] at ht
    obtain ⟨next, hnext, ht⟩ := ht
    exact ih next (hfirst.addSection hs hnext) ht hrest

/-! ## Readers -/

theorem inOrder_of_plain? {word : List Char} {i : Item} (h : plain? word = some i) :
    i.InOrder := by
  unfold plain? at h
  split at h
  · cases h
    exact .boolean _
  split at h
  · cases h
    exact .boolean _
  split at h
  · cases h
    exact .moment _
  split at h
  · cases h
    exact .integer _
  split at h
  · cases h
    exact .float _
  split at h
  · cases h
    exact .unreadable
  · cases h

theorem inOrder_of_takePlain? {s rest : List Char} {i : Item} (h : takePlain? s = some (i, rest)) :
    i.InOrder := by
  have hmap : ∀ {word : List Char} {more : List Char},
      (plain? word).map (fun v => (v, more)) = some (i, rest) → i.InOrder := by
    intro word more hmap
    obtain ⟨v, hv, heq⟩ := Option.map_eq_some_iff.1 hmap
    cases heq
    exact inOrder_of_plain? hv
  simp only [takePlain?] at h
  split at h
  · split at h <;> exact hmap h
  · exact hmap h

/-- The reader finds items in order. -/
def FindsInOrder (read? : List Char → Option (Item × List Char)) : Prop :=
  ∀ s i rest, read? s = some (i, rest) → i.InOrder

variable {read? : List Char → Option (Item × List Char)}

theorem inOrder_of_elements? (hread : FindsInOrder read?) {fuel : Nat} {done items : List Item}
    {s rest : List Char} (hdone : ∀ i ∈ done, i.InOrder)
    (h : elements? read? fuel done s = some (items, rest)) : ∀ i ∈ items, i.InOrder := by
  induction fuel generalizing done s with
  | zero => cases h
  | succ fuel ih =>
    rw [elements?] at h
    split at h
    · cases h
    · cases h
      simpa using hdone
    · simp only [Option.bind_eq_bind, Option.bind_eq_some_iff] at h
      obtain ⟨⟨v, s⟩, hv, s', hs', h⟩ := h
      have hmore := List.forall_mem_cons.2 ⟨hread _ _ _ hv, hdone⟩
      split at h
      · exact ih hmore h
      · cases h
        exact fun i hi => hmore i (List.mem_reverse.1 hi)
      · cases h

theorem inOrder_of_fields? (hread : FindsInOrder read?) {fuel : Nat} {done entries : Entries}
    {s rest : List Char} (hdone : done.InOrder)
    (h : fields? read? fuel done s = some (entries, rest)) : entries.InOrder := by
  induction fuel generalizing done s with
  | zero => cases h
  | succ fuel ih =>
    rw [fields?] at h
    split at h
    · cases h
    · cases h
      exact hdone
    · simp only [Option.bind_eq_bind, Option.bind_eq_some_iff] at h
      obtain ⟨⟨⟨path, k⟩, s⟩, -, s₁, -, s₂, -, s₃, -, ⟨v, s₄⟩, hv, new, hnew, s₅, -, h⟩ := h
      have hmore := hdone.define (hread _ _ _ hv) hnew
      split at h
      · exact ih hmore h
      · cases h
        exact hmore
      · cases h

/-- **The values that are read are in order.** -/
theorem inOrder_of_value? (depth : Nat) : FindsInOrder (value? depth) := by
  have hbase : FindsInOrder (value? 0) := by
    intro s i rest h
    unfold value? at h
    split at h
    · cases h
      exact .string _
    · exact inOrder_of_takePlain? h
  induction depth with
  | zero => exact hbase
  | succ depth ih =>
    intro s i rest h
    unfold value? at h
    split at h
    · obtain ⟨⟨items, more⟩, hitems, heq⟩ := Option.map_eq_some_iff.1 h
      cases heq
      exact .array (inOrder_of_elements? ih (List.forall_mem_nil _) hitems)
    · obtain ⟨⟨entries, more⟩, hentries, heq⟩ := Option.map_eq_some_iff.1 h
      cases heq
      have hin := inOrder_of_fields? ih Entries.inOrder_nil hentries
      exact inOrder_itemsOf hin.ordered fun e he => (hin.nodes e he).item
    · exact hbase s i rest h

theorem inOrder_of_line? {s rest : List Char} {l : Line} (h : line? s = some (l, rest)) :
    l.InOrder := by
  have hheader : ∀ {isElement : Bool} {s : List Char},
      header? isElement s = some (l, rest) → l.InOrder := by
    intro isElement s h
    cases isElement <;>
      simp only [header?, Option.bind_eq_bind, Option.bind_eq_some_iff, Option.pure_def] at h
    · obtain ⟨_, -, _, -, heq⟩ := h
      cases heq
      trivial
    · obtain ⟨_, -, _, -, h⟩ := h
      obtain ⟨_, -, heq⟩ := Option.bind_eq_some_iff.1 h
      cases heq
      trivial
  have hentry : ∀ {s : List Char}, entry? s = some (l, rest) → l.InOrder := by
    intro s h
    simp only [ entry?, Option.bind_eq_bind, Option.bind_eq_some_iff, Option.pure_def,
      Option.some.injEq] at h
    obtain ⟨⟨⟨path, k⟩, s₁⟩, -, s₂, -, ⟨v, s₃⟩, hv, heq⟩ := h
    cases heq
    exact inOrder_of_value? _ _ _ _ hv
  unfold line? at h
  split at h
  · exact hheader h
  · exact hheader h
  · exact hentry h

theorem inOrder_of_lines? {fuel : Nat} {done lines : List Line} {s : List Char}
    (hdone : ∀ l ∈ done, l.InOrder) (h : lines? fuel done s = some lines) :
    ∀ l ∈ lines, l.InOrder := by
  induction fuel generalizing done s with
  | zero => cases h
  | succ fuel ih =>
    rw [lines?] at h
    split at h
    · cases h
    · cases h
      simpa using hdone
    · simp only [Option.bind_eq_bind, Option.bind_eq_some_iff] at h
      obtain ⟨⟨l, s₁⟩, hl, s₂, -, h⟩ := h
      exact ih (List.forall_mem_cons.2 ⟨inOrder_of_line? hl, hdone⟩) h

/-- **What a document says is in order.** -/
theorem inOrder_of_read? {text : String} {fields : Dict String Item}
    (h : Toml.read? text = some fields) : (Item.table fields).InOrder := by
  simp only [Toml.read?, Option.bind_eq_bind, Option.bind_eq_some_iff, Option.pure_def,
    Option.some.injEq] at h
  obtain ⟨lines, hlines, entries, hentries, rfl⟩ := h
  have hin := Entries.inOrder_ofLines? (inOrder_of_lines? (List.forall_mem_nil _) hlines) hentries
  exact inOrder_itemsOf hin.ordered fun e he => (hin.nodes e he).item

end Downstream.Toml
