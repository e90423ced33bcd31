import Downstream.Proofs.Project.Payload
import Downstream.Proofs.Project.Rewritten

/-!
# Fields that are read

The fields of a document are looked at in the order of their names, so what is read depends on what
is found under the five names that the program knows, and on the other fields only in that all
their numbers must fit (`Config.ofFields_eq_ofKnown`, `Config.fits_of_readFields`).
-/

namespace Downstream

/-! ## Entries under some keys -/

namespace Dict

variable {α : Type} {d : Dict String α} {names : List String}

/-- The entries under some keys. -/
def pick (names : List String) (d : Dict String α) : Dict String α :=
  names.filterMap fun n => (find? n d).map fun v => (n, v)

theorem find?_pick (names : List String) (k : String) (d : Dict String α) :
    find? k (pick names d) = if k ∈ names then find? k d else none := by
  induction names with
  | nil => rfl
  | cons n names ih =>
    rw [pick, List.filterMap_cons]
    cases hn : find? n d with
    | none =>
      by_cases hk : k = n
      · have := ih
        simp_all [pick]
      · simp_all [pick]
    | some v =>
      by_cases hk : k = n
      · simp_all [find?]
      · simp_all [pick, find?]

theorem find?_filter (p : String → Bool) (k : String) (d : Dict String α) :
    find? k (d.filter fun e => p e.1) = if p k then find? k d else none := by
  induction d with
  | nil => simp [find?]
  | cons e d ih =>
    by_cases hk : k = e.1 <;> by_cases hp : p e.1 = true <;> simp_all [find?]

theorem ordered_pick (hnames : names.Pairwise (· < ·)) (d : Dict String α) :
    Ordered (pick names d) := by
  refine hnames.filterMap _ fun n n' hlt e he e' he' => ?_
  obtain ⟨v, -, rfl⟩ := Option.map_eq_some_iff.1 he
  obtain ⟨v', -, rfl⟩ := Option.map_eq_some_iff.1 he'
  exact hlt

/-- The entries whose keys are among some keys in order. -/
theorem filter_eq_pick (h : Ordered d) (hnames : names.Pairwise (· < ·)) :
    d.filter (fun e => decide (e.1 ∈ names)) = pick names d := by
  refine eq_of_find? (fun _ _ => String.lt_asymm) (h.filter _) (ordered_pick hnames d) fun k => ?_
  rw [find?_filter fun k => decide (k ∈ names), find?_pick]
  simp

end Dict

namespace Config

open Toml (Item Value)

variable {fields : Dict String Item} {c : Config}

/-- The names of the fields that are looked at, in order. -/
def fieldNames : List String :=
  ["domain", "layout", "plugins", "project-name", "version"]

/-! ## Fields of other names -/

theorem readField_other {name : String} (h : name ∉ fieldNames) (d : Draft) (i : Item) :
    d.readField name i = if i.fits then .ok d else .error .malformed := by
  simp only [fieldNames, List.mem_cons, List.not_mem_nil, or_false, not_or] at h
  obtain ⟨hdomain, hlayout, hplugins, hname, hversion⟩ := h
  rw [Draft.readField, if_neg hdomain, if_neg hlayout, if_neg hplugins, if_neg hname,
    if_neg hversion]
  rfl

/-- Fields of other names are passed over if all their numbers fit. -/
theorem readFields_filter (hfits : ∀ e ∈ fields, e.1 ∉ fieldNames → e.2.fits = true) (d : Draft) :
    d.readFields fields = d.readFields (fields.filter fun e => decide (e.1 ∈ fieldNames)) := by
  induction fields generalizing d with
  | nil => rfl
  | cons e fields ih =>
    obtain ⟨he, hfits⟩ := List.forall_mem_cons.1 hfits
    by_cases hmem : e.1 ∈ fieldNames
    · rw [List.filter_cons_of_pos (by simpa using hmem), Draft.readFields, Draft.readFields,
        List.foldlM_cons, List.foldlM_cons]
      exact bind_congr fun d => ih hfits d
    · have hpass : d.readField e.1 e.2 = .ok d := by rw [readField_other hmem, if_pos (he hmem)]
      rw [List.filter_cons_of_neg (by simpa using hmem), ← ih hfits d, Draft.readFields,
        List.foldlM_cons]
      exact congrArg (· >>= _) hpass

/-- Where all fields are read, the numbers in those of other names fit. -/
theorem fits_of_readFields {d d' : Draft} (h : d.readFields fields = .ok d') :
    ∀ e ∈ fields, e.1 ∉ fieldNames → e.2.fits = true := by
  induction fields generalizing d with
  | nil => exact nofun
  | cons e fields ih =>
    obtain ⟨name, i⟩ := e
    rw [Draft.readFields, List.foldlM_cons] at h
    obtain ⟨next, hnext, h⟩ := exists_of_bind_eq_ok h
    refine List.forall_mem_cons.2 ⟨fun hmem => ?_, ih h⟩
    dsimp only at hnext
    rw [readField_other hmem] at hnext
    split at hnext
    · assumption
    · cases hnext

theorem fits_of_ofFields (h : ofFields fields = .ok c) :
    ∀ e ∈ fields, e.1 ∉ fieldNames → e.2.fits = true := by
  obtain ⟨d, hd, -⟩ := exists_of_bind_eq_ok h
  exact fits_of_readFields (d := {}) hd

/-! ## The fields that are known -/

/-- Reads a field that may be left out. -/
def readOptional {α : Type} (read : Item → Except Fault α) : Option Item → Except Fault (Option α)
  | none => pure none
  | some i => some <$> read i

/-- What the fields that are known say. -/
def ofKnown (domain layout plugins projectName version : Option Item) : Except Fault Config := do
  let domain ← readOptional readText domain
  let layout ← readOptional readTexts layout
  let plugins ← readOptional readPlugins plugins
  let projectName ← readOptional readText projectName
  match ← readOptional readText version with
  | none => throw (.missing "version")
  | some version => return ⟨version, domain, projectName, layout.getD [], plugins.getD []⟩

theorem readOptional_eq_ok_iff {α : Type} {read : Item → Except Fault α} {o : Option Item}
    {x : Option α} : readOptional read o = .ok x ↔
      (o = none ∧ x = none) ∨ ∃ i y, o = some i ∧ x = some y ∧ read i = .ok y := by
  cases o with
  | none =>
    constructor
    · intro h
      cases h
      exact .inl ⟨rfl, rfl⟩
    · rintro (⟨-, rfl⟩ | ⟨i, y, hi, -⟩)
      · rfl
      · cases hi
  | some i =>
    constructor
    · intro h
      obtain ⟨y, hy, hx⟩ := exists_of_bind_eq_ok h
      cases hx
      exact .inr ⟨i, y, rfl, rfl, hy⟩
    · rintro (⟨hi, -⟩ | ⟨j, y, hj, rfl, hy⟩)
      · cases hi
      · cases hj
        rw [readOptional, hy]
        rfl

/-- The fields that are known are read one by one. -/
theorem ofKnown_eq_ok_iff {domain layout plugins projectName version : Option Item} :
    ofKnown domain layout plugins projectName version = .ok c ↔
      readOptional readText domain = .ok c.domain ∧
      (∃ l, readOptional readTexts layout = .ok l ∧ l.getD [] = c.layout) ∧
      (∃ p, readOptional readPlugins plugins = .ok p ∧ p.getD [] = c.plugins) ∧
      readOptional readText projectName = .ok c.projectName ∧
      readOptional readText version = .ok (some c.version) := by
  constructor
  · intro h
    obtain ⟨d, hd, h⟩ := exists_of_bind_eq_ok h
    obtain ⟨l, hl, h⟩ := exists_of_bind_eq_ok h
    obtain ⟨p, hp, h⟩ := exists_of_bind_eq_ok h
    obtain ⟨n, hn, h⟩ := exists_of_bind_eq_ok h
    obtain ⟨v, hv, h⟩ := exists_of_bind_eq_ok h
    cases v with
    | none => cases h
    | some v =>
      cases h
      exact ⟨hd, ⟨l, hl, rfl⟩, ⟨p, hp, rfl⟩, hn, hv⟩
  · rintro ⟨hd, ⟨l, hl, hlayout⟩, ⟨p, hp, hplugins⟩, hn, hv⟩
    rw [ofKnown, hd, hl, hp, hn, hv]
    change Except.ok (⟨c.version, c.domain, c.projectName, l.getD [], p.getD []⟩ : Config) = .ok c
    rw [hlayout, hplugins]

/-- **What is read depends on the fields that are known.** -/
theorem ofFields_eq_ofKnown (hordered : Dict.Ordered fields)
    (hfits : ∀ e ∈ fields, e.1 ∉ fieldNames → e.2.fits = true) :
    ofFields fields = ofKnown (Dict.find? "domain" fields) (Dict.find? "layout" fields)
      (Dict.find? "plugins" fields) (Dict.find? "project-name" fields)
      (Dict.find? "version" fields) := by
  have hread : ofFields fields = (do
      let d ← Draft.readFields {} (Dict.pick fieldNames fields)
      match d.version with
      | none => throw (.missing "version")
      | some version => return ⟨version, d.domain, d.projectName, d.layout, d.plugins⟩) := by
    rw [← Dict.filter_eq_pick hordered (by decide), ← readFields_filter hfits]
    rfl
  rw [hread]
  simp only [Dict.pick, fieldNames, List.filterMap_cons, List.filterMap_nil, Draft.readFields]
  generalize Dict.find? "domain" fields = domain
  generalize Dict.find? "layout" fields = layout
  generalize Dict.find? "plugins" fields = plugins
  generalize Dict.find? "project-name" fields = projectName
  generalize Dict.find? "version" fields = version
  cases domain <;> cases layout <;> cases plugins <;> cases projectName <;> cases version <;>
    simp [ofKnown, readOptional, Draft.readField, bind_map_left]

/-! ## What a field says -/

variable {i : Item} {t : Toml.Table} {entries : List (String × Item)}
  {plugins : Dict String Toml.Table}

theorem readText_eq_ok_iff {s : String} : readText i = .ok s ↔ i = .string s := by
  cases i <;> simp [readText]

theorem readTexts_eq_ok_iff {l : List String} :
    readTexts i = .ok l ↔ i = .array (l.map Item.string) := by
  constructor
  · intro h
    unfold readTexts at h
    split at h
    next items =>
      congr 1
      induction items generalizing l with
      | nil =>
        cases h
        rfl
      | cons i items ih =>
        rw [List.mapM_cons] at h
        obtain ⟨s, hs, h⟩ := exists_of_bind_eq_ok h
        obtain ⟨rest, hrest, h⟩ := exists_of_bind_eq_ok h
        cases h
        rw [List.map_cons, readText_eq_ok_iff.1 hs, ih hrest]
    · cases h
  · rintro rfl
    rw [readTexts]
    induction l with
    | nil => rfl
    | cons s l ih =>
      rw [List.map_cons, List.mapM_cons, ih]
      rfl

/-- A plugin has a table or a moment, which counts as the table that holds its text. -/
theorem readPlugin_eq_ok_iff : readPlugin i = .ok t ↔
    (∃ m, i = .moment m ∧ t = [(Toml.momentKey, .string (String.ofList m.text))]) ∨
      ∃ entries, i = .table entries ∧ Value.ofEntries? entries = some t := by
  cases i with
  | table entries =>
    rw [readPlugin]
    cases ht : Value.ofEntries? entries <;> simp [ht]
  | moment m => simp [readPlugin, eq_comm]
  | _ => simp [readPlugin]

/-- The settings of plugins are read one by one. -/
theorem of_readPlugins (h : readPlugins i = .ok plugins) : ∃ entries, i = .table entries ∧
    plugins.map Prod.fst = entries.map Prod.fst ∧
      ∀ (n : Nat) e f, entries[n]? = some e → plugins[n]? = some f → readPlugin e.2 = .ok f.2 := by
  unfold readPlugins at h
  split at h
  next entries =>
    refine ⟨entries, rfl, ?_⟩
    induction entries generalizing plugins with
    | nil =>
      cases h
      exact ⟨rfl, nofun⟩
    | cons e entries ih =>
      rw [List.mapM_cons] at h
      obtain ⟨p, hp, h⟩ := exists_of_bind_eq_ok h
      obtain ⟨t, ht, hp⟩ := exists_of_bind_eq_ok hp
      obtain ⟨rest, hrest, h⟩ := exists_of_bind_eq_ok h
      cases hp
      cases h
      obtain ⟨hkeys, hplugins⟩ := ih hrest
      refine ⟨by rw [List.map_cons, List.map_cons, hkeys], fun n e' f he hf => ?_⟩
      cases n with
      | zero =>
        cases he
        cases hf
        exact ht
      | succ n => exact hplugins n e' f he hf
  · cases h
  · cases h

theorem exists_readPlugins (h : ∀ e ∈ entries, ∃ t, readPlugin e.2 = .ok t) :
    ∃ plugins, readPlugins (.table entries) = .ok plugins := by
  rw [readPlugins]
  induction entries with
  | nil => exact ⟨[], rfl⟩
  | cons e entries ih =>
    obtain ⟨k, i⟩ := e
    obtain ⟨⟨t, ht⟩, hentries⟩ := List.forall_mem_cons.1 h
    obtain ⟨plugins, hplugins⟩ := ih hentries
    refine ⟨(k, t) :: plugins, ?_⟩
    rw [List.mapM_cons, hplugins]
    dsimp only
    rw [ht]
    rfl

end Config

end Downstream
