import Mathlib
import Downstream.Proofs.Project.Verbatim
import Downstream.Proofs.Toml.Limit
import Downstream.Proofs.Toml.Ordinary
import Downstream.Proofs.Toml.Spellings

/-!
# Which texts are accepted

A text that is no document, or in which a word stands in the place of a number, is refused. An
ordinary document is looked at in two stages: first whether each field that is known has the shape
that it must have (`Config.WellShaped`), then whether the version is one that there is and has all
fields that are used. What is accepted says what the document says (`Config.Says`).
`Config.parse_accepts` puts this together.
-/

namespace Downstream.Config

open Toml (Item Value)

variable {fields : Dict String Item} {c : Config} {path text : String}

/-! ## Shapes -/

/-- The version is a text, and each other field that is known is left out or what it must be. -/
structure WellShaped (fields : Dict String Item) : Prop where
  version : ∃ s, Dict.find? "version" fields = some (.string s)
  domain : ∀ i, Dict.find? "domain" fields = some i → ∃ s, i = .string s
  projectName : ∀ i, Dict.find? "project-name" fields = some i → ∃ s, i = .string s
  layout : ∀ i, Dict.find? "layout" fields = some i →
    ∃ texts : List String, i = .array (texts.map .string)
  plugins : ∀ i, Dict.find? "plugins" fields = some i →
    ∃ entries, i = .table entries ∧ ∀ e ∈ entries, ∃ settings, e.2 = .table settings

/-- There are no plugins, or the table of them is empty. -/
def NoPlugins (fields : Dict String Item) : Prop :=
  ∀ entries, Dict.find? "plugins" fields = some (.table entries) → entries = []

/-- The fields say what the document says, and are empty where it says nothing. -/
structure Says (c : Config) (fields : Dict String Item) : Prop where
  version : Dict.find? "version" fields = some (.string c.version)
  domain : Dict.find? "domain" fields = c.domain.map .string
  projectName : Dict.find? "project-name" fields = c.projectName.map .string
  layout : (Dict.find? "layout" fields = none ∧ c.layout = []) ∨
    Dict.find? "layout" fields = some (.array (c.layout.map .string))
  plugins : (Dict.find? "plugins" fields = none ∧ c.plugins = []) ∨
    ∃ entries, Dict.find? "plugins" fields = some (.table entries) ∧
      (Item.table entries).Verbatim (.table (c.plugins.map fun e => (e.1, .table e.2)))

theorem readOptional_readText_iff {o : Option Item} {x : Option String} :
    readOptional readText o = .ok x ↔ o = x.map Item.string := by
  rw [readOptional_eq_ok_iff]
  constructor
  · rintro (⟨rfl, rfl⟩ | ⟨i, s, rfl, rfl, hs⟩)
    · rfl
    · rw [readText_eq_ok_iff.1 hs]
      rfl
  · rintro rfl
    cases x with
    | none => exact .inl ⟨rfl, rfl⟩
    | some s => exact .inr ⟨.string s, s, rfl, rfl, rfl⟩

theorem find?_of_everywhere {p : Item → Prop} {name : String} {i : Item}
    (h : (Item.table fields).Everywhere p) (hi : Dict.find? name fields = some i) :
    i.Everywhere p :=
  (Item.everywhere_table.1 h).2 _ (Dict.mem_of_find? hi)

/-- The numbers in the fields of an ordinary document fit. -/
theorem fits_of_ordinary (h : (Item.table fields).Everywhere Item.IsOrdinary) :
    ∀ e ∈ fields, e.1 ∉ fieldNames → e.2.fits = true := fun e he _ =>
  Item.fits_of_everywhere (((Item.everywhere_table.1 h).2 e he).imp fun _ hq => hq.isFit)

/-- The settings of plugins in an ordinary document are tables, held value for value. -/
theorem verbatim_of_readPlugins {i : Item} {plugins : Dict String Toml.Table}
    (hi : i.Everywhere Item.IsOrdinary) (h : readPlugins i = .ok plugins) :
    ∃ entries, i = .table entries ∧ (∀ e ∈ entries, ∃ settings, e.2 = .table settings) ∧
      (Item.table entries).Verbatim (.table (plugins.map fun e => (e.1, .table e.2))) := by
  obtain ⟨entries, rfl, hkeys, hentries⟩ := of_readPlugins h
  have hordinary := (Item.everywhere_table.1 hi).2
  have htable : ∀ (n : Nat) e f, entries[n]? = some e → plugins[n]? = some f →
      ∃ settings, e.2 = .table settings ∧ (Item.table settings).Verbatim (.table f.2) := by
    intro n e f he hf
    have hordinary := hordinary e (List.mem_of_getElem? he)
    obtain ⟨m, hm, -⟩ | ⟨settings, hsettings, hvalue⟩ :=
      readPlugin_eq_ok_iff.1 (hentries n e f he hf)
    · rw [hm] at hordinary
      exact hordinary.here.elim
    · rw [hsettings] at hordinary
      refine ⟨settings, hsettings, (Value.verbatim_iff_of_ofEntries? hvalue).2 fun e he => ?_⟩
      exact ((Item.everywhere_table.1 hordinary).2 e he).imp fun _ hq => hq.hasOtherKeys.isItself
  refine ⟨entries, rfl, fun e he => ?_, .table ?_ fun n e f he hf => ?_⟩
  · obtain ⟨n, f, hn, hf⟩ := Value.exists_getElem?_of_keys hkeys he
    obtain ⟨settings, hsettings, -⟩ := htable n e f hn hf
    exact ⟨settings, hsettings⟩
  · rw [List.map_map]
    exact hkeys
  · rw [List.getElem?_map, Option.map_eq_some_iff] at hf
    obtain ⟨f, hf, rfl⟩ := hf
    obtain ⟨settings, hsettings, hverbatim⟩ := htable n e f he hf
    rw [hsettings]
    exact hverbatim

theorem exists_readPlugins_of_ordinary {entries : List (String × Item)}
    (hi : (Item.table entries).Everywhere Item.IsOrdinary)
    (h : ∀ e ∈ entries, ∃ settings, e.2 = .table settings) :
    ∃ plugins, readPlugins (.table entries) = .ok plugins := by
  refine exists_readPlugins fun e he => ?_
  obtain ⟨settings, hsettings⟩ := h e he
  have hordinary := (Item.everywhere_table.1 hi).2 e he
  rw [hsettings] at hordinary
  have hentries := (Item.everywhere_table.1 hordinary).2
  obtain ⟨t, ht⟩ := Option.isSome_iff_exists.1 ((Value.isSome_ofEntries?
    fun e he => (hentries e he).imp fun _ hq => hq.hasOtherKeys.isItself).2
      fun e he => (hentries e he).imp fun _ hq => hq.isFit)
  exact ⟨t, readPlugin_eq_ok_iff.2 (.inr ⟨settings, hsettings, ht⟩)⟩

theorem not_part_unreadable_of_readTexts {i : Item} {l : List String}
    (h : readTexts i = .ok l) : ¬Item.Part .unreadable i := by
  rw [readTexts_eq_ok_iff.1 h]
  intro hpart
  cases hpart with
  | element hmem hpart =>
    obtain ⟨s, -, rfl⟩ := List.mem_map.1 hmem
    cases hpart

theorem not_part_unreadable_of_readPlugins {i : Item} {plugins : Dict String Toml.Table}
    (h : readPlugins i = .ok plugins) (hkeys : i.Everywhere Item.HasOtherKeys) :
    ¬Item.Part .unreadable i := by
  obtain ⟨entries, rfl, hnames, hentries⟩ := of_readPlugins h
  intro hpart
  cases hpart with
  | @entry _ e he hpart =>
    obtain ⟨n, f, hn, hf⟩ := Value.exists_getElem?_of_keys hnames he
    have hkeys := (Item.everywhere_table.1 hkeys).2 e he
    obtain ⟨m, hm, -⟩ | ⟨settings, hsettings, hvalue⟩ :=
      readPlugin_eq_ok_iff.1 (hentries n e f hn hf)
    · rw [hm] at hpart
      cases hpart
    · rw [hsettings] at hpart hkeys
      cases hpart with
      | @entry _ g hg hpart =>
        have hfits := (Value.isSome_ofEntries? fun g hg =>
          ((Item.everywhere_table.1 hkeys).2 g hg).imp fun _ hq => hq.isItself).1
            (Option.isSome_iff_exists.2 ⟨_, hvalue⟩) g hg
        exact hfits _ hpart

variable (hordered : Dict.Ordered fields)
  (hordinary : (Item.table fields).Everywhere Item.IsOrdinary)

include hordered hordinary

/-- **What is read from an ordinary document says what the document says**, which then has the shape
that it must have. -/
theorem says_of_ofFields (h : ofFields fields = .ok c) : c.Says fields ∧ WellShaped fields := by
  rw [ofFields_eq_ofKnown hordered (fits_of_ordinary hordinary), ofKnown_eq_ok_iff] at h
  obtain ⟨hdomain, ⟨layout, hlayout, hlayout'⟩, ⟨plugins, hplugins, hplugins'⟩, hname, hversion⟩ := h
  rw [readOptional_readText_iff] at hdomain hname hversion
  have htext : ∀ {o : Option Item} {x : Option String}, o = x.map Item.string →
      ∀ i, o = some i → ∃ s, i = .string s := by
    rintro _ x rfl i hi
    obtain ⟨s, -, rfl⟩ := Option.map_eq_some_iff.1 hi
    exact ⟨s, rfl⟩
  have hlayout : (Dict.find? "layout" fields = none ∧ c.layout = []) ∨
      Dict.find? "layout" fields = some (.array (c.layout.map .string)) := by
    obtain ⟨hnone, rfl⟩ | ⟨i, l, hi, rfl, hl⟩ := readOptional_eq_ok_iff.1 hlayout
    · exact .inl ⟨hnone, hlayout'.symm⟩
    · obtain rfl : l = c.layout := hlayout'
      rw [hi, readTexts_eq_ok_iff.1 hl]
      exact .inr rfl
  have hplugins : (Dict.find? "plugins" fields = none ∧ c.plugins = []) ∨
      ∃ entries, Dict.find? "plugins" fields = some (.table entries) ∧
        (∀ e ∈ entries, ∃ settings, e.2 = .table settings) ∧
        (Item.table entries).Verbatim (.table (c.plugins.map fun e => (e.1, .table e.2))) := by
    obtain ⟨hnone, rfl⟩ | ⟨i, p, hi, rfl, hp⟩ := readOptional_eq_ok_iff.1 hplugins
    · exact .inl ⟨hnone, hplugins'.symm⟩
    · obtain rfl : p = c.plugins := hplugins'
      obtain ⟨entries, rfl, hentries⟩ :=
        verbatim_of_readPlugins (find?_of_everywhere hordinary hi) hp
      exact .inr ⟨entries, hi, hentries⟩
  constructor
  · exact ⟨hversion, hdomain, hname, hlayout,
      hplugins.imp_right fun ⟨entries, hi, _, hverbatim⟩ => ⟨entries, hi, hverbatim⟩⟩
  · refine ⟨⟨c.version, hversion⟩, htext hdomain, htext hname, fun i hi => ?_, fun i hi => ?_⟩
    · obtain ⟨hnone, -⟩ | hsome := hlayout
      · cases hi.symm.trans hnone
      · exact ⟨c.layout, Option.some.inj (hi.symm.trans hsome)⟩
    · obtain ⟨hnone, -⟩ | ⟨entries, hsome, htables, -⟩ := hplugins
      · cases hi.symm.trans hnone
      · exact ⟨entries, Option.some.inj (hi.symm.trans hsome), htables⟩

/-- An ordinary document in shape is read. -/
theorem exists_ofFields (h : WellShaped fields) : ∃ c, ofFields fields = .ok c := by
  have hread : ∀ {α : Type} (read : Item → Except Fault α) {o : Option Item},
      (∀ i, o = some i → ∃ x, read i = .ok x) → ∃ x, readOptional read o = .ok x := by
    intro α read o h
    cases o with
    | none => exact ⟨none, rfl⟩
    | some i =>
      obtain ⟨x, hx⟩ := h i rfl
      exact ⟨some x, readOptional_eq_ok_iff.2 (.inr ⟨i, x, rfl, rfl, hx⟩)⟩
  have htext : ∀ {o : Option Item}, (∀ i, o = some i → ∃ s, i = .string s) →
      ∃ x, readOptional readText o = .ok x := fun h => hread readText fun i hi => by
    obtain ⟨s, rfl⟩ := h i hi
    exact ⟨s, rfl⟩
  obtain ⟨version, hversion⟩ := h.version
  obtain ⟨domain, hdomain⟩ := htext h.domain
  obtain ⟨projectName, hname⟩ := htext h.projectName
  obtain ⟨layout, hlayout⟩ := hread readTexts fun i hi => by
    obtain ⟨texts, rfl⟩ := h.layout i hi
    exact ⟨texts, readTexts_eq_ok_iff.2 rfl⟩
  obtain ⟨plugins, hplugins⟩ := hread readPlugins fun i hi => by
    obtain ⟨entries, rfl, hentries⟩ := h.plugins i hi
    exact exists_readPlugins_of_ordinary (find?_of_everywhere hordinary hi) hentries
  refine ⟨⟨version, domain, projectName, layout.getD [], plugins.getD []⟩, ?_⟩
  rw [ofFields_eq_ofKnown hordered (fits_of_ordinary hordinary), ofKnown_eq_ok_iff]
  exact ⟨hdomain, ⟨layout, hlayout, rfl⟩, ⟨plugins, hplugins, rfl⟩, hname,
    readOptional_readText_iff.2 hversion⟩

omit hordinary in
/-- Where a document without the key for moments is read, no word stands in the place of a
number. -/
theorem not_part_unreadable_of_ofFields (h : ofFields fields = .ok c)
    (hkeys : (Item.table fields).Everywhere Item.HasOtherKeys) :
    ¬Item.Part .unreadable (.table fields) := by
  have hfits := fits_of_ofFields h
  rw [ofFields_eq_ofKnown hordered hfits, ofKnown_eq_ok_iff] at h
  obtain ⟨hdomain, ⟨layout, hlayout, -⟩, ⟨plugins, hplugins, -⟩, hname, hversion⟩ := h
  rw [readOptional_readText_iff] at hdomain hname hversion
  have htext : ∀ {i : Item} {x : Option String}, some i = x.map Item.string →
      ¬Item.Part .unreadable i := by
    intro i x h hpart
    obtain ⟨s, -, rfl⟩ := Option.map_eq_some_iff.1 h.symm
    cases hpart
  intro hpart
  cases hpart with
  | @entry _ e hmem hpart =>
    have hfind := Dict.find?_of_mem (fun _ _ => String.lt_asymm) hordered hmem
    by_cases hknown : e.1 ∈ fieldNames
    · simp only [fieldNames, List.mem_cons, List.not_mem_nil, or_false] at hknown
      obtain hk | hk | hk | hk | hk := hknown <;> rw [hk] at hfind
      · exact htext (hfind.symm.trans hdomain) hpart
      · rw [hfind] at hlayout
        obtain ⟨hnone, -⟩ | ⟨i, l, hi, -, hl⟩ := readOptional_eq_ok_iff.1 hlayout
        · cases hnone
        · cases hi
          exact not_part_unreadable_of_readTexts hl hpart
      · rw [hfind] at hplugins
        obtain ⟨hnone, -⟩ | ⟨i, p, hi, -, hp⟩ := readOptional_eq_ok_iff.1 hplugins
        · cases hnone
        · cases hi
          exact not_part_unreadable_of_readPlugins hp (find?_of_everywhere hkeys hfind) hpart
      · exact htext (hfind.symm.trans hname) hpart
      · exact htext (hfind.symm.trans hversion) hpart
    · exact Item.not_part_unreadable_of_fits (hfits e hmem hknown) hpart

omit hordered hordinary

/-! ## The version -/

theorem Says.noPlugins_iff (h : c.Says fields) : NoPlugins fields ↔ c.plugins = [] := by
  obtain ⟨hnone, hempty⟩ | ⟨entries, hsome, hverbatim⟩ := h.plugins
  · exact iff_of_true (fun entries he => by cases hnone.symm.trans he) hempty
  · cases hverbatim with
    | table hkeys _ =>
      have hlength : c.plugins.length = entries.length := by
        simpa using congrArg List.length hkeys
      constructor
      · intro hno
        rw [hno entries hsome] at hlength
        exact List.eq_nil_of_length_eq_zero hlength
      · intro hempty entries' he
        cases hsome.symm.trans he
        rw [hempty] at hlength
        exact List.eq_nil_of_length_eq_zero hlength.symm

/-- The version is 3, or 2 without plugins; it is 2 with plugins; or it is another one. -/
theorem validate_cases (c : Config) :
    ((c.version = "3" ∨ c.version = "2" ∧ c.plugins = []) ∧ c.validate = .ok ()) ∨
      (c.version = "2" ∧ c.plugins ≠ [] ∧
        c.validate = .error (.unsupportedField "2" "plugins")) ∨
      (c.version ≠ "3" ∧ c.version ≠ "2" ∧
        c.validate = .error (.unsupportedVersion c.version)) := by
  rw [validate, version3, version2]
  by_cases h3 : c.version = "3"
  · exact .inl ⟨.inl h3, if_pos h3⟩
  by_cases h2 : c.version = "2"
  · rw [if_neg h3, if_pos h2, h2]
    cases c.plugins with
    | nil => exact .inl ⟨.inr ⟨rfl, rfl⟩, rfl⟩
    | cons e plugins => exact .inr (.inl ⟨rfl, List.cons_ne_nil _ _, rfl⟩)
  · rw [if_neg h3, if_neg h2]
    exact .inr (.inr ⟨h3, h2, rfl⟩)

/-- What becomes of a document in shape that says what `c` says. -/
theorem Says.parse_iff (h : c.Says fields)
    (hparse : parse path text = c.validate.map fun _ => c) :
    ((∃ c, parse path text = .ok c) ↔ c.version = "3" ∨ c.version = "2" ∧ NoPlugins fields) ∧
      (parse path text = .error (.unsupportedField "2" "plugins") ↔
        c.version = "2" ∧ ¬NoPlugins fields) ∧
      (parse path text = .error (.unsupportedVersion c.version) ↔
        c.version ≠ "3" ∧ c.version ≠ "2") := by
  rw [hparse, h.noPlugins_iff]
  obtain ⟨hversion, hvalid⟩ | ⟨hversion, hplugins, hvalid⟩ | ⟨h3, h2, hvalid⟩ :=
    validate_cases c <;> rw [hvalid]
  · refine ⟨iff_of_true ⟨c, rfl⟩ hversion, iff_of_false (fun h => by cases h) fun h => ?_,
      iff_of_false (fun h => by cases h) fun h => ?_⟩
    · rw [h.1] at hversion
      exact hversion.elim (by decide) fun hversion => h.2 hversion.2
    · exact hversion.elim h.1 fun hversion => h.2 hversion.1
  · refine ⟨iff_of_false (fun h => by cases h.choose_spec) fun h => ?_,
      iff_of_true rfl ⟨hversion, hplugins⟩,
      iff_of_false (fun h => by cases h) fun h => h.2 hversion⟩
    rw [hversion] at h
    exact h.elim (by decide) fun h => hplugins h.2
  · exact ⟨iff_of_false (fun h => by cases h.choose_spec) fun h => h.elim h3 fun h => h2 h.1,
      iff_of_false (fun h => by cases h) fun h => h2 h.1, iff_of_true rfl ⟨h3, h2⟩⟩

/-! ## Texts -/

theorem ordered_of_read? (h : Toml.read? text = some fields) : Dict.Ordered fields := by
  cases Toml.inOrder_of_read? h with
  | table hordered _ => exact hordered

theorem exists_parse_eq_error (h : Toml.read? text = some fields)
    (hfields : ∀ c, ofFields fields ≠ .ok c) (path : String) :
    ∃ fault, parse path text = .error (.parse path fault) := by
  cases hc : ofFields fields with
  | ok c => exact absurd hc (hfields c)
  | error fault => exact ⟨fault, parse_of_ofFields_eq_error h hc path⟩

/-- A text is looked at only for the fields that are read from it. -/
theorem parse_congr {text' : String} {fields' : Dict String Item}
    (h : Toml.read? text = some fields) (h' : Toml.read? text' = some fields')
    (heq : ofFields fields' = ofFields fields) (path : String) :
    parse path text' = parse path text := by
  cases hc : ofFields fields with
  | error fault =>
    rw [parse_of_ofFields_eq_error h hc, parse_of_ofFields_eq_error h' (heq.trans hc)]
  | ok c => rw [parse_of_ofFields h hc, parse_of_ofFields h' (heq.trans hc)]

/-- Settings under a header. -/
def headerText : String :=
  "version = '3'\n[plugins.a]\nx = 1\n"

/-- The same settings in braces. -/
def bracesText : String :=
  "plugins = \x7ba = \x7bx = 1\x7d\x7d\nversion = \"3\"\n"

/-- What both say. -/
def spelledFields : Dict String Item :=
  [("plugins", .table [("a", .table [("x", .integer 1)])]), ("version", .string "3")]

theorem read?_headerText : Toml.read? headerText = some spelledFields := by
  cbv

theorem read?_bracesText : Toml.read? bracesText = some spelledFields := by
  cbv

theorem ordinary_spelledFields : (Item.table spelledFields).Everywhere Item.IsOrdinary := by
  have hnumber : (Item.integer 1).Everywhere Item.IsOrdinary :=
    (Item.everywhere_leaf _ rfl).2 (by decide)
  have hversion : (Item.string "3").Everywhere Item.IsOrdinary :=
    (Item.everywhere_leaf _ rfl).2 (by decide)
  refine Item.everywhere_table.2 ⟨by decide, List.forall_mem_cons.2 ⟨?_,
    List.forall_mem_singleton.2 hversion⟩⟩
  exact Item.everywhere_table.2 ⟨by decide, List.forall_mem_singleton.2
    (Item.everywhere_table.2 ⟨by decide, List.forall_mem_singleton.2 hnumber⟩)⟩

theorem wellShaped_spelledFields : WellShaped spelledFields := by
  refine ⟨⟨"3", rfl⟩, nofun, nofun, nofun, fun i hi => ?_⟩
  cases hi
  exact ⟨_, rfl, by simp⟩

theorem sameStatements_spelled : Toml.SameStatements headerText bracesText := by
  have hheader : Toml.linesOf? headerText = some [.entry ⟨[], "version", .string "3"⟩,
      .header ⟨false, ["plugins"], "a"⟩, .entry ⟨[], "x", .integer 1⟩] := by cbv
  have hbraces : Toml.linesOf? bracesText = some [.entry ⟨[], "plugins",
      .table [("a", .table [("x", .integer 1)])]⟩, .entry ⟨[], "version", .string "3"⟩] := by cbv
  let version := Toml.Statement.value ["version"] (.string "3")
  let settings := Toml.Statement.value ["plugins", "a"] (.table [("x", .integer 1)])
  let entered := Toml.Statement.table ["plugins", "a"]
  let entry := Toml.Statement.value ["plugins", "a", "x"] (.integer 1)
  have hopen : Toml.Statement.Rephrase
      [.value ["plugins"] (.table [("a", .table [("x", .integer 1)])]), version]
      [.table ["plugins"], settings, version] :=
    .braces [] [version] (List.pairwise_singleton _ _) rfl
  have henter : Toml.Statement.Rephrase [.table ["plugins"], settings, version]
      [settings, version] :=
    .enter [] [version] (q := ["a"]) rfl (List.cons_ne_nil _ _)
  have hentry : Toml.Statement.Rephrase [settings, version] [entered, entry, version] :=
    .braces [] [version] (List.pairwise_singleton _ _) rfl
  have hlast : Toml.Statement.Rephrase [entered, entry, version] [entered, version, entry] :=
    .swap [entered] [] (by decide)
  have hfirst : Toml.Statement.Rephrase [entered, version, entry] [version, entered, entry] :=
    .swap [] [entry] (by decide)
  refine ⟨_, _, hheader, hbraces, .symm _ _ ?_⟩
  exact .trans _ _ _ (.rel _ _ hopen) (.trans _ _ _ (.rel _ _ henter)
    (.trans _ _ _ (.rel _ _ hentry) (.trans _ _ _ (.rel _ _ hlast) (.rel _ _ hfirst))))

/-- A key of one hundred and twenty-one parts. -/
def longKeyText : List Char :=
  "version = '3'\n".toList ++ (List.replicate 120 ['x', '.']).flatten ++ "x = 1\n".toList

/-- A number in tables under one key. -/
def nestedTables : Nat → Item
  | 0 => .integer 1
  | n + 1 => .table [("x", nestedTables n)]

theorem ordinary_nestedTables (n : Nat) : (nestedTables n).Everywhere Item.IsOrdinary := by
  have hkey : "x" ≠ Toml.momentKey := by decide
  induction n with
  | zero => exact (Item.everywhere_leaf _ rfl).2 (by decide)
  | succ n ih =>
    exact Item.everywhere_table.2 ⟨List.forall_mem_singleton.2 hkey,
      List.forall_mem_singleton.2 ih⟩

set_option maxRecDepth 20000 in
theorem readWithin?_longKeyText : Toml.readWithin? 121 (String.ofList longKeyText) =
    some [("version", .string "3"), ("x", nestedTables 120)] := by
  rw [Toml.readWithin?, String.toList_ofList]
  cbv

set_option maxRecDepth 20000 in
theorem read?_longKeyText : Toml.read? (String.ofList longKeyText) = none := by
  rw [Toml.read?, String.toList_ofList]
  cbv

/-- A word in the place of a number, in a table that counts as a time of day. -/
def unreadWordText : List Char :=
  "version = \"3\"\n[plugins.p.q]\n\"$__toml_private_datetime\" = \"07:32\"\nx = 1_a\n".toList

/-- Whether a word stands in the place of a number behind the first entry of the only table in the
settings of the only plugin. -/
def hasWord (fields : Dict String Item) : Bool :=
  match Dict.find? "plugins" fields with
  | some (.table [(_, .table [(_, .table [_, (_, .unreadable)])])]) => true
  | _ => false

theorem part_unreadable_of_hasWord (h : hasWord fields = true) :
    Item.Part .unreadable (.table fields) := by
  unfold hasWord at h
  split at h
  next hplugins =>
    exact .entry (Dict.mem_of_find? hplugins) (.entry List.mem_cons_self
      (.entry List.mem_cons_self (.entry (List.mem_cons_of_mem _ List.mem_cons_self) .self)))
  next => cases h

end Downstream.Config
