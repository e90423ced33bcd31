import Downstream.Project.Document
import Downstream.Proofs.Toml.Document

/-!
# Project documents are read as they were written
-/

namespace Downstream.Config

open Toml (Entries Node Item Section Value)

variable {c : Config}

/-! ## What a document is written from -/

/-- The entries of the main table of a document, as they are written. -/
def fields (c : Config) : List (String × Value) :=
  ("version", .string c.version) ::
    ((c.domain.toList.map fun s => ("domain", .string s)) ++
      (c.projectName.toList.map fun s => ("project-name", .string s)) ++
      if c.layout.isEmpty then [] else [("layout", .array (c.layout.map .string))])

/-- The settings of all plugins, as entries of a table. -/
def pluginEntries (c : Config) : List (String × Value) :=
  c.plugins.map fun e => (e.1, .table e.2)

/-- The sections of a document. -/
def sections (c : Config) : List Section :=
  (Value.innerOutline c.pluginEntries).map (Section.under ["plugins"])

theorem isSection_of_mem_pluginEntries {e : String × Value} (h : e ∈ c.pluginEntries) :
    e.2.isSection = true := by
  obtain ⟨p, -, rfl⟩ := List.mem_map.1 h
  rfl

theorem ownEntries_pluginEntries (c : Config) : Value.ownEntries c.pluginEntries = [] := by
  rw [Value.ownEntries, List.filter_eq_nil_iff]
  intro e he
  simp [isSection_of_mem_pluginEntries he]

theorem flatMap_sections (c : Config) :
    c.sections.flatMap Section.text =
      c.plugins.flatMap fun e => Toml.writtenTable ["plugins", e.1] e.2 := by
  have hinner := Value.innerSections_eq ["plugins"] c.pluginEntries
  have htables : ∀ plugins : Dict String Toml.Table,
      Value.innerSections ["plugins"] (plugins.map fun e => (e.1, Value.table e.2)) =
        plugins.map fun e => Toml.writtenTable ["plugins", e.1] e.2 := by
    intro plugins
    induction plugins with
    | nil => rfl
    | cons e plugins ih => simp [Value.innerSections, Value.isSection, Toml.writtenTable, ih]
  rw [pluginEntries, htables, ← List.flatMap_def] at hinner
  rw [sections, List.flatMap_map]
  exact hinner.symm

theorem flatMap_fields (c : Config) :
    (c.fields.flatMap fun e => Toml.writtenEntry e.1 e.2.inline) =
      Toml.writtenEntry "version" (Toml.writtenText c.version) ++
        optionalLine "domain" c.domain ++ optionalLine "project-name" c.projectName ++
        layoutLines c.layout := by
  have hlayout : (Value.array (c.layout.map .string)).inline =
      Toml.writtenArray (c.layout.map Toml.writtenText) := by
    rw [Value.inline, Toml.inlineItems_eq_map, List.map_map]
    rfl
  cases hd : c.domain <;> cases hn : c.projectName <;> cases hl : c.layout.isEmpty <;>
    simp [fields, optionalLine, layoutLines, Value.inline, hd, hn, hl, ← hlayout]

theorem text_eq (c : Config) : c.text = String.ofList (Toml.documentText c.fields c.sections) := by
  rw [text, Toml.documentText, flatMap_sections, flatMap_fields]

/-! ## What is read of it -/

/-- The tables of all settings are in order, and the values in them are sound. -/
structure SoundSettings (plugins : Dict String Toml.Table) : Prop where
  ordered : Dict.Ordered plugins
  tables : ∀ e ∈ plugins, Dict.Ordered e.2
  values : ∀ e ∈ plugins, ∀ f ∈ e.2, f.2.Sound

/-- The entries of the main table before and after the settings of plugins. -/
def earlyFields (c : Config) : List (String × Value) :=
  (c.domain.toList.map fun s => ("domain", .string s)) ++
    if c.layout.isEmpty then [] else [("layout", .array (c.layout.map .string))]

def lateFields (c : Config) : List (String × Value) :=
  (c.projectName.toList.map fun s => ("project-name", .string s)) ++
    [("version", .string c.version)]

/-- The entries of the main table come in order. -/
theorem defineAll_fields (c : Config) :
    Entries.defineAll [] (c.fields.map Toml.entryOf) =
      some (Toml.readEntries (c.earlyFields ++ c.lateFields)) := by
  cases hd : c.domain <;> cases hn : c.projectName <;> cases hl : c.layout.isEmpty <;>
    simp only [fields, earlyFields, lateFields, hd, hn, hl, Option.toList, Entries.defineAll,
      Toml.entryOf, Entries.define, Entries.changeAt, Dict.find?, Dict.insert, Toml.readEntries,
      List.map_cons, List.map_nil, List.cons_append, List.nil_append, List.foldlM_cons,
      List.foldlM_nil, List.isEmpty_nil, Bool.false_eq_true, if_true, if_false, Option.isSome_none,
      Option.bind_eq_bind, Option.bind_some, String.reduceLT, String.reduceEq] <;> rfl

theorem lt_plugins {e : String × Value} (h : e ∈ c.earlyFields) : e.1 < "plugins" := by
  rcases List.mem_append.1 h with hdomain | hlayout
  · obtain ⟨s, -, rfl⟩ := List.mem_map.1 hdomain
    exact (by decide : "domain" < "plugins")
  · split at hlayout
    · cases hlayout
    · obtain rfl := List.mem_singleton.1 hlayout
      exact (by decide : "layout" < "plugins")

theorem plugins_lt {e : String × Value} (h : e ∈ c.lateFields) : "plugins" < e.1 := by
  rcases List.mem_append.1 h with hname | hversion
  · obtain ⟨s, -, rfl⟩ := List.mem_map.1 hname
    exact (by decide : "plugins" < "project-name")
  · obtain rfl := List.mem_singleton.1 hversion
    exact (by decide : "plugins" < "version")

/-- The sections of a document put the settings of all plugins under their key. -/
theorem foldlM_sections (h : SoundSettings c.plugins) (hne : c.plugins ≠ []) :
    ∃ t : Entries, Toml.itemsOf t = Value.itemEntries c.pluginEntries ∧
      ∀ root : Entries, Dict.find? "plugins" root = none →
        c.sections.foldlM Entries.add root =
          some (Dict.insert "plugins" (.table .implied t) root) := by
  have hordered : Dict.Ordered c.pluginEntries := h.ordered.map _ fun _ _ hlt => hlt
  have hplaces : ∀ e ∈ c.pluginEntries, e.2.isSection = true → Value.Places e.1 e.2 := by
    intro e he _
    obtain ⟨p, hp, rfl⟩ := List.mem_map.1 he
    exact Value.places_table (h.tables p hp)
      (Value.completes_of_sound (h.tables p hp) (h.values p hp)) p.1
  obtain ⟨t, ht, hfold⟩ := Value.completes_of_places hordered hplaces
  have hinner : Value.innerOutline c.pluginEntries ≠ [] := by
    obtain ⟨p, rest, hp⟩ := List.exists_cons_of_ne_nil hne
    rw [Ne, Value.innerOutline_eq_nil_iff, pluginEntries, hp]
    exact fun hnone => Bool.false_ne_true (hnone (p.1, .table p.2) (by simp)).symm
  rw [ownEntries_pluginEntries] at hfold
  have hfold : (Value.innerOutline c.pluginEntries).foldlM Entries.add [] = some t := hfold
  refine ⟨t, ht, fun root hroot => ?_⟩
  rw [sections, Entries.foldlM_under _ hinner, Entries.changeUnder_of_none hroot, hfold,
    Option.map_some]

/-- The settings of all plugins, if there are any, as an entry of the main table. -/
def pluginItem (c : Config) : List (String × Item) :=
  if c.plugins.isEmpty then [] else [("plugins", .table (Value.itemEntries c.pluginEntries))]

/-- What a document says, field by field. -/
def items (c : Config) : Dict String Item :=
  Value.itemEntries c.earlyFields ++ (c.pluginItem ++ Value.itemEntries c.lateFields)

theorem itemsOf_append (a b : Entries) :
    Toml.itemsOf (a ++ b) = Toml.itemsOf a ++ Toml.itemsOf b := by
  induction a with
  | nil => rfl
  | cons e a ih => rw [List.cons_append, Toml.itemsOf, Toml.itemsOf, ih, List.cons_append]

theorem readEntries_append (a b : List (String × Value)) :
    Toml.readEntries (a ++ b) = Toml.readEntries a ++ Toml.readEntries b :=
  List.map_append

/-- The fields of a document with its sections added. -/
theorem foldlM_fields (h : SoundSettings c.plugins) :
    (c.sections.foldlM Entries.add (Toml.readEntries (c.earlyFields ++ c.lateFields))).map
      Toml.itemsOf = some c.items := by
  by_cases hne : c.plugins = []
  · have hsections : c.sections = [] := by rw [sections, pluginEntries, hne]; rfl
    rw [hsections, List.foldlM_nil, readEntries_append]
    simp [items, pluginItem, hne, itemsOf_append, Toml.itemsOf_readEntries]
  · obtain ⟨t, ht, hfold⟩ := foldlM_sections h hne
    have hearly : ∀ e ∈ Toml.readEntries c.earlyFields, e.1 < "plugins" :=
      List.forall_mem_map.2 fun e he => lt_plugins he
    have hlate : ∀ e ∈ Toml.readEntries c.lateFields, "plugins" < e.1 :=
      List.forall_mem_map.2 fun e he => plugins_lt he
    have hnew : Dict.find? "plugins"
        (Toml.readEntries c.earlyFields ++ Toml.readEntries c.lateFields) = none :=
      Dict.find?_eq_none fun e he => (List.mem_append.1 he).elim
        (fun he => (String.ne_of_lt (hearly e he)).symm) fun he => String.ne_of_lt (hlate e he)
    rw [readEntries_append, hfold _ hnew,
      Dict.insert_between (fun _ _ => String.lt_asymm) hearly hlate, Option.map_some]
    simp [items, pluginItem, hne, itemsOf_append, Toml.itemsOf, Node.item, ht,
      Toml.itemsOf_readEntries]

/-! ## Fields -/

theorem readTexts_map (layout : List String) :
    readTexts (.array (Value.items (layout.map .string))) = .ok layout := by
  have hread : ∀ layout : List String,
      (Value.items (layout.map .string)).mapM readText = .ok layout := by
    intro layout
    induction layout with
    | nil => rfl
    | cons s layout ih =>
      simp [Value.items, Value.item, readText, ih]
      rfl
  exact hread layout

theorem readPlugin_table {t : Toml.Table} (h : ∀ f ∈ t, f.2.Sound) :
    readPlugin (.table (Value.itemEntries t)) = .ok t := by
  rw [readPlugin, Value.ofEntries?_itemEntries fun f hf => Value.ofItem?_item (h f hf)]

theorem readPlugins_pluginEntries (h : SoundSettings c.plugins) :
    readPlugins (.table (Value.itemEntries c.pluginEntries)) = .ok c.plugins := by
  have hread : ∀ plugins : Dict String Toml.Table, (∀ e ∈ plugins, ∀ f ∈ e.2, f.2.Sound) →
      readPlugins (.table (Value.itemEntries (plugins.map fun e => (e.1, .table e.2)))) =
        .ok plugins := by
    intro plugins hplugins
    rw [readPlugins]
    induction plugins with
    | nil => rfl
    | cons e plugins ih =>
      obtain ⟨he, hrest⟩ := List.forall_mem_cons.1 hplugins
      rw [List.map_cons, Value.itemEntries, List.mapM_cons, ih hrest]
      simp only [Value.item, readPlugin_table he]
      rfl
  exact hread c.plugins h.values

/-! ### One field after the other -/

theorem readField_domain (d : Draft) (s : String) :
    d.readField "domain" (.string s) = .ok { d with domain := some s } :=
  rfl

theorem readField_projectName (d : Draft) (s : String) :
    d.readField "project-name" (.string s) = .ok { d with projectName := some s } :=
  rfl

theorem readField_version (d : Draft) (s : String) :
    d.readField "version" (.string s) = .ok { d with version := some s } :=
  rfl

theorem readField_layout (d : Draft) (layout : List String) :
    d.readField "layout" (.array (Value.items (layout.map .string))) =
      .ok { d with layout := layout } := by
  simp only [Draft.readField, readTexts_map]
  rfl

theorem readField_plugins (d : Draft) (h : SoundSettings c.plugins) :
    d.readField "plugins" (.table (Value.itemEntries c.pluginEntries)) =
      .ok { d with plugins := c.plugins } := by
  simp only [Draft.readField, readPlugins_pluginEntries h]
  rfl

/-- Reads fields one after the other. -/
def Draft.readFields (d : Draft) (fields : Dict String Item) : Except Fault Draft :=
  fields.foldlM (fun d (name, v) => d.readField name v) d

theorem readFields_append (d : Draft) (a b : Dict String Item) :
    d.readFields (a ++ b) = (d.readFields a).bind fun d => d.readFields b :=
  List.foldlM_append

theorem readFields_earlyFields (c : Config) :
    Draft.readFields {} (Value.itemEntries c.earlyFields) =
      .ok { domain := c.domain, layout := c.layout } := by
  have hempty : c.layout.isEmpty = true → c.layout = [] := List.isEmpty_iff.1
  cases hd : c.domain <;> cases hl : c.layout.isEmpty <;>
    simp [earlyFields, Draft.readFields, Value.itemEntries, Value.item, hd, hl, hempty,
      readField_domain, readField_layout] <;> rfl

theorem readFields_pluginItem (h : SoundSettings c.plugins) {d : Draft} (hd : d.plugins = []) :
    d.readFields c.pluginItem = .ok { d with plugins := c.plugins } := by
  by_cases hne : c.plugins = []
  · simp [pluginItem, hne, Draft.readFields, ← hd]
    rfl
  · simp [pluginItem, hne, Draft.readFields, readField_plugins d h]

theorem readFields_lateFields (c : Config) {d : Draft} (hd : d.projectName = none) :
    d.readFields (Value.itemEntries c.lateFields) =
      .ok { d with projectName := c.projectName, version := some c.version } := by
  obtain ⟨version, domain, projectName, layout, plugins⟩ := d
  obtain rfl : projectName = none := hd
  cases hn : c.projectName <;>
    simp [lateFields, Draft.readFields, Value.itemEntries, Value.item, hn, readField_projectName,
      readField_version] <;> rfl

/-- **What a document says is the document.** -/
theorem ofFields_items (h : SoundSettings c.plugins) : ofFields c.items = .ok c := by
  have hread : Draft.readFields {} c.items =
      .ok ⟨some c.version, c.domain, c.projectName, c.layout, c.plugins⟩ := by
    rw [items, readFields_append, readFields_earlyFields, Except.bind, readFields_append,
      readFields_pluginItem h rfl, Except.bind, readFields_lateFields c rfl]
  rw [Draft.readFields] at hread
  rw [ofFields, hread]
  rfl

/-! ## The whole document -/

/-- The text of a document is within the limits of its reader. -/
def WithinLimits (c : Config) : Prop :=
  ∀ s ∈ c.sections, s.Fits

instance (c : Config) : Decidable c.WithinLimits :=
  inferInstanceAs (Decidable (∀ s ∈ c.sections, s.Fits))

theorem sound_of_mem_sections (h : SoundSettings c.plugins) {s : Section} (hs : s ∈ c.sections) :
    ∀ e ∈ s.own, e.2.Sound := by
  obtain ⟨i, hi, rfl⟩ := List.mem_map.1 hs
  obtain ⟨e, he, hi⟩ := Value.exists_of_mem_innerOutline hi
  obtain ⟨p, hp, rfl⟩ := List.mem_map.1 he
  have hvalues := h.values p hp
  exact (Value.within_outline_table hvalues (fun f hf => (hvalues f hf).within_outline) p.1 i
    hi).sound

theorem fields_ne_nil (c : Config) : c.fields ≠ [] :=
  List.cons_ne_nil _ _

theorem sound_fields (c : Config) : ∀ e ∈ c.fields, e.2.Sound ∧ e.2.depth ≤ Toml.depthLimit := by
  have htext : ∀ s : String, (Value.string s).Sound ∧ (Value.string s).depth ≤ Toml.depthLimit :=
    fun s => ⟨.string s, Nat.zero_le _⟩
  have hlayout : Value.depthOfItems (c.layout.map .string) ≤ 0 :=
    Value.depthOfItems_le_iff.2 (List.forall_mem_map.2 fun _ _ => Nat.le_refl 0)
  have harray : (Value.array (c.layout.map .string)).Sound ∧
      (Value.array (c.layout.map .string)).depth ≤ Toml.depthLimit :=
    ⟨.array (List.forall_mem_map.2 fun s _ => .string s),
      Nat.le_trans (Nat.succ_le_succ hlayout) (by decide)⟩
  simp only [fields, List.forall_mem_cons, List.forall_mem_append, List.forall_mem_map]
  refine ⟨htext _, ⟨fun s _ => htext s, fun s _ => htext s⟩, ?_⟩
  split
  · exact nofun
  · exact List.forall_mem_singleton.2 harray

/-- **The text of a document is read for what the document says**, unless it is beyond the limits of
the reader. -/
theorem read?_text (h : SoundSettings c.plugins) :
    Toml.read? c.text = if c.WithinLimits then some c.items else none := by
  have hread := Toml.read?_documentText c.fields_ne_nil (fun e he => (c.sound_fields e he).1)
    (fun e he => (c.sound_fields e he).2) fun s hs => sound_of_mem_sections h hs
  rw [text_eq, hread, defineAll_fields, Option.bind_some, foldlM_fields h]
  rfl

section Reading

variable {path text : String} {document : Dict String Item}

theorem parse_of_read?_eq_none (h : Toml.read? text = none) (path : String) :
    parse path text = .error (.parse path .malformed) := by
  rw [parse, ofText, h]
  rfl

theorem parse_of_ofFields_eq_error {fault : Fault} (h : Toml.read? text = some document)
    (hfault : ofFields document = .error fault) (path : String) :
    parse path text = .error (.parse path fault) := by
  have hread : ofText text = .error fault := by
    rw [ofText, h]
    exact hfault
  rw [parse, hread]
  rfl

/-- Where the fields of a document are read, its version decides. -/
theorem parse_of_ofFields (h : Toml.read? text = some document) (hc : ofFields document = .ok c)
    (path : String) : parse path text = c.validate.map fun _ => c := by
  have hread : ofText text = .ok c := by
    rw [ofText, h]
    exact hc
  have hparse : parse path text = c.validate.bind fun _ => .ok c := by
    rw [parse, hread]
    rfl
  rw [hparse]
  cases c.validate <;> rfl

/-- A text is accepted if it is a document whose fields are read and its version has them. -/
theorem parse_eq_ok_iff : parse path text = .ok c ↔ ∃ document,
    Toml.read? text = some document ∧ ofFields document = .ok c ∧ c.validate = .ok () := by
  constructor
  · intro h
    cases hdocument : Toml.read? text with
    | none => cases (parse_of_read?_eq_none hdocument path).symm.trans h
    | some document =>
      cases hc : ofFields document with
      | error fault => cases (parse_of_ofFields_eq_error hdocument hc path).symm.trans h
      | ok d =>
        rw [parse_of_ofFields hdocument hc] at h
        cases hvalid : d.validate with
        | error e =>
          rw [hvalid] at h
          cases h
        | ok u =>
          rw [hvalid] at h
          cases h
          exact ⟨document, rfl, hc, hvalid⟩
  · rintro ⟨document, hdocument, hc, hvalid⟩
    rw [parse_of_ofFields hdocument hc, hvalid]
    rfl

end Reading

/-- **Reading undoes writing**, and a text beyond the limits is refused. -/
theorem parse_text (h : SoundSettings c.plugins) (hvalid : c.validate = .ok ()) (path : String) :
    parse path c.text = if c.WithinLimits then .ok c else .error (.parse path .malformed) := by
  have hread := read?_text h
  by_cases hlimits : c.WithinLimits
  · rw [if_pos hlimits] at hread ⊢
    exact parse_eq_ok_iff.2 ⟨c.items, hread, ofFields_items h, hvalid⟩
  · rw [if_neg hlimits] at hread ⊢
    exact parse_of_read?_eq_none hread path

/-! ## Documents that programs build -/

/-- The settings nest so little that a reader takes them. -/
theorem withinLimits_of_depth (h : SoundSettings c.plugins)
    (hdepth : ∀ e ∈ c.plugins, ∀ f ∈ e.2, f.2.depth + 2 ≤ Toml.depthLimit) : c.WithinLimits := by
  intro s hs
  obtain ⟨i, hi, rfl⟩ := List.mem_map.1 hs
  obtain ⟨e, he, hi⟩ := Value.exists_of_mem_innerOutline hi
  obtain ⟨p, hp, rfl⟩ := List.mem_map.1 he
  have hvalues := h.values p hp
  have hwithin := Value.within_outline_table hvalues (fun f hf => (hvalues f hf).within_outline)
    p.1 i hi
  have hbound : (Value.table p.2).depth + 1 ≤ Toml.depthLimit := by
    have hentries : Value.depthOfEntries p.2 ≤ Toml.depthLimit - 2 :=
      Value.depthOfEntries_le_iff.2 fun f hf => Nat.le_sub_of_add_le (hdepth p hp f hf)
    have hlimit : Toml.depthLimit = 80 := rfl
    rw [Value.depth]
    omega
  refine ⟨Nat.lt_of_lt_of_le ?_ hbound, fun f hf => ?_⟩
  · simpa [Section.under] using hwithin.path
  · exact Nat.le_trans (Nat.le_of_lt (hwithin.depth f hf)) (Nat.le_of_succ_le hbound)

/-- All settings are as a program builds them. -/
structure Regular (c : Config) : Prop where
  plugins : Dict.Ordered c.plugins
  tables : ∀ e ∈ c.plugins, (Value.table e.2).Regular

theorem Regular.sound (h : c.Regular) : SoundSettings c.plugins where
  ordered := h.plugins
  tables e he := by
    cases h.tables e he with
    | table hordered _ _ => exact hordered
  values e he := by
    cases h.tables e he with
    | table _ _ hvalues => exact fun f hf => (hvalues f hf).sound

theorem Regular.same_self (h : c.Regular) : c.same c = true := by
  have hplugins : ∀ e ∈ c.pluginEntries, e.2.same e.2 = true :=
    List.forall_mem_map.2 fun e he => (h.tables e he).same_self
  have hsame := Value.sameEntries_self hplugins
  rw [pluginEntries] at hsame
  simp [same, hsame]

/-- **A document that a program builds is read as it was written**, and the reader's result equals
it. Its settings may hold any texts and numbers and nest 64 deep. -/
theorem parse_text_of_regular (c : Config) (hvalid : c.validate = .ok ()) (h : c.Regular)
    (hdepth : ∀ e ∈ c.plugins, ∀ f ∈ e.2, f.2.depth ≤ 64) (path : String) :
    parse path c.text = .ok c ∧ c.same c = true :=
  have hlimits := withinLimits_of_depth h.sound fun e he f hf =>
    Nat.le_trans (Nat.add_le_add_right (hdepth e he f hf) 2) (by decide)
  ⟨(parse_text h.sound hvalid path).trans (if_pos hlimits), h.same_self⟩

/-- A document with texts of all kinds of quotes, an array of tables and an empty table. -/
theorem parse_text_of_regular_quotes :
    let c : Config :=
      { version := "3", domain := some "a \"b\" '''\n", layout := ["", "\\"]
        plugins := [("a b", [("\n", .array [.table [("", .float (.infinite true))], .table []]),
          ("k", .table [])])] }
    parse "PROJECT.toml" c.text = .ok c ∧ c.same c = true := by
  intro c
  have hempty : (Value.table []).Regular := .table .nil nofun nofun
  have hentry : (Value.table [("", .float (.infinite true))]).Regular :=
    .table (List.pairwise_singleton _ _) (by simp [Toml.momentKey])
      (List.forall_mem_singleton.2 (.float nofun))
  have harray : (Value.array [.table [("", .float (.infinite true))], .table []]).Regular :=
    .array (List.forall_mem_cons.2 ⟨hentry, List.forall_mem_singleton.2 hempty⟩)
  refine parse_text_of_regular c rfl ⟨List.pairwise_singleton _ _, ?_⟩ (by decide +kernel) _
  have hordered : Dict.Ordered [("\n", Value.array [.table [("", .float (.infinite true))],
      .table []]), ("k", .table [])] :=
    .cons (List.forall_mem_singleton.2 (by decide : "\n" < "k")) (List.pairwise_singleton _ _)
  exact List.forall_mem_singleton.2 (.table hordered (by simp [Toml.momentKey])
    (List.forall_mem_cons.2 ⟨harray, List.forall_mem_singleton.2 hempty⟩))

end Downstream.Config
