import Downstream.Proofs.Scaffold.Document
import Downstream.Proofs.Toml.Verbatim

/-!
# Payloads as settings

A payload can be put into a document if it is an object, nothing in it is null, and its whole
numbers are of 64 bits (`Payload.isSome_table?_iff`). The table that it becomes mirrors it at every
depth and is the only one that does (`Payload.mirrors_iff_of_value?`). So a call that puts a payload
under a key either replaces the settings for that key by this table, or fails and changes nothing
(`Config.store_encode`).
-/

namespace Downstream

/-- Entries in order are known from what is found in them. -/
theorem Dict.eq_of_find? {κ α : Type} [LT κ] [DecidableEq κ]
    (asymm : ∀ a b : κ, a < b → ¬b < a) {d d' : Dict κ α} (h : Dict.Ordered d)
    (h' : Dict.Ordered d') (hfind : ∀ k, Dict.find? k d = Dict.find? k d') : d = d' := by
  induction d generalizing d' with
  | nil =>
    cases d' with
    | nil => rfl
    | cons e d' => simpa [Dict.find?] using hfind e.1
  | cons e d ih =>
    cases d' with
    | nil => simpa [Dict.find?] using hfind e.1
    | cons e' d' =>
      obtain ⟨hlt, hd⟩ := List.pairwise_cons.1 h
      obtain ⟨hlt', hd'⟩ := List.pairwise_cons.1 h'
      have hkey : e.1 = e'.1 := by
        refine Decidable.byContradiction fun hne => ?_
        have hmem := hfind e.1
        have hmem' := hfind e'.1
        rw [find?, if_pos rfl, find?, if_neg hne] at hmem
        rw [find?, if_neg (Ne.symm hne), find?, if_pos rfl] at hmem'
        exact asymm _ _ (hlt _ (mem_of_find? hmem')) (hlt' _ (mem_of_find? hmem.symm))
      have hvalue : e.2 = e'.2 := by simpa [find?, hkey] using hfind e.1
      have hne : ∀ {d : Dict κ α}, (∀ f ∈ d, e.1 < f.1) → ∀ f ∈ d, e.1 ≠ f.1 :=
        fun hlt f hf heq => asymm _ _ (hlt f hf) (heq ▸ hlt f hf)
      have hrest : ∀ k, find? k d = find? k d' := fun k => by
        by_cases hk : k = e.1
        · rw [hk, find?_eq_none (hne hlt), find?_eq_none (hne fun f hf => hkey ▸ hlt' f hf)]
        · have hk' : k ≠ e'.1 := hkey ▸ hk
          have hfind := hfind k
          rwa [find?, if_neg hk, find?, if_neg hk'] at hfind
      rw [ih hd hd' hrest, Prod.ext hkey hvalue]

namespace Payload

variable {p q : Payload} {items : List Payload} {fields : List (String × Payload)}

/-- Payloads are made from their parts. -/
@[elab_as_elim]
theorem parts_induction {motive : Payload → Prop} (null : motive .null)
    (boolean : ∀ b, motive (.boolean b)) (integer : ∀ n, motive (.integer n))
    (float : ∀ x, motive (.float x)) (string : ∀ s, motive (.string s))
    (array : ∀ items, (∀ p ∈ items, motive p) → motive (.array items))
    (object : ∀ fields, (∀ f ∈ fields, motive f.2) → motive (.object fields)) (p : Payload) :
    motive p := by
  match p with
  | .null => exact null
  | .boolean b => exact boolean b
  | .integer n => exact integer n
  | .float x => exact float x
  | .string s => exact string s
  | .array items =>
    exact array items fun p hp =>
      parts_induction null boolean integer float string array object p
  | .object fields =>
    exact object fields fun f hf =>
      parts_induction null boolean integer float string array object f.2
termination_by sizeOf p
decreasing_by
  · have := List.sizeOf_lt_of_mem hp
    simp only [Payload.array.sizeOf_spec]
    omega
  · have := List.sizeOf_lt_of_mem hf
    have : sizeOf f = 1 + sizeOf f.1 + sizeOf f.2 := by cases f; rfl
    simp only [Payload.object.sizeOf_spec]
    omega

/-! ## Parts -/

/-- A payload is another one, or is held in it at any depth. -/
inductive Part (q : Payload) : Payload → Prop where
  | self : Part q q
  | item {items : List Payload} {p : Payload} (hmem : p ∈ items) (h : Part q p) :
    Part q (.array items)
  | field {fields : List (String × Payload)} {f : String × Payload} (hmem : f ∈ fields)
    (h : Part q f.2) : Part q (.object fields)

theorem part_array (hq : q ≠ .array items) : Part q (.array items) ↔ ∃ p ∈ items, Part q p := by
  constructor
  · intro h
    cases h with
    | self => exact absurd rfl hq
    | item hp h => exact ⟨_, hp, h⟩
  · rintro ⟨p, hp, h⟩
    exact .item hp h

theorem part_object (hq : q ≠ .object fields) :
    Part q (.object fields) ↔ ∃ f ∈ fields, Part q f.2 := by
  constructor
  · intro h
    cases h with
    | self => exact absurd rfl hq
    | field hf h => exact ⟨_, hf, h⟩
  · rintro ⟨f, hf, h⟩
    exact .field hf h

/-- Nothing in a payload is null, and its whole numbers are of 64 bits. -/
structure Fits (p : Payload) : Prop where
  null : ¬Part .null p
  integer : ∀ n, Part (.integer n) p → (Toml.int64? n).isSome

theorem fits_array : Fits (.array items) ↔ ∀ p ∈ items, p.Fits := by
  refine ⟨fun h p hp => ⟨fun hnull => h.null (.item hp hnull),
    fun n hn => h.integer n (.item hp hn)⟩, fun h => ⟨fun hnull => ?_, fun n hn => ?_⟩⟩
  · obtain ⟨p, hp, hnull⟩ := (part_array (by simp)).1 hnull
    exact (h p hp).null hnull
  · obtain ⟨p, hp, hn⟩ := (part_array (by simp)).1 hn
    exact (h p hp).integer n hn

theorem fits_object : Fits (.object fields) ↔ ∀ f ∈ fields, f.2.Fits := by
  refine ⟨fun h f hf => ⟨fun hnull => h.null (.field hf hnull),
    fun n hn => h.integer n (.field hf hn)⟩, fun h => ⟨fun hnull => ?_, fun n hn => ?_⟩⟩
  · obtain ⟨f, hf, hnull⟩ := (part_object (by simp)).1 hnull
    exact (h f hf).null hnull
  · obtain ⟨f, hf, hn⟩ := (part_object (by simp)).1 hn
    exact (h f hf).integer n hn

theorem isSome_values? (h : ∀ p ∈ items, p.value?.isSome ↔ p.Fits) :
    (values? items).isSome ↔ ∀ p ∈ items, p.Fits := by
  induction items with
  | nil => simp [values?]
  | cons p items ih =>
    obtain ⟨hp, hitems⟩ := List.forall_mem_cons.1 h
    rw [List.forall_mem_cons, ← hp, ← ih hitems, values?]
    cases p.value? <;> cases values? items <;> simp

theorem isSome_entries? (h : ∀ f ∈ fields, f.2.value?.isSome ↔ f.2.Fits) :
    (entries? fields).isSome ↔ ∀ f ∈ fields, f.2.Fits := by
  induction fields with
  | nil => simp [entries?]
  | cons f fields ih =>
    obtain ⟨hf, hfields⟩ := List.forall_mem_cons.1 h
    obtain ⟨k, p⟩ := f
    rw [List.forall_mem_cons, ← hf, ← ih hfields, entries?]
    cases p.value? <;> cases entries? fields <;> simp

/-- **A payload is a value if all of it fits.** -/
theorem isSome_value?_iff (p : Payload) : p.value?.isSome ↔ p.Fits := by
  induction p using parts_induction with
  | null => exact iff_of_false nofun fun h => h.null .self
  | integer n =>
    rw [value?, Option.isSome_map]
    refine ⟨fun h => ⟨nofun, fun m hm => ?_⟩, fun h => h.integer n .self⟩
    cases hm
    exact h
  | array items ih => rw [value?, Option.isSome_map, isSome_values? ih, fits_array]
  | object fields ih => rw [value?, Option.isSome_map, isSome_entries? ih, fits_object]
  | boolean b => exact iff_of_true rfl ⟨nofun, nofun⟩
  | float x => exact iff_of_true rfl ⟨nofun, nofun⟩
  | string s => exact iff_of_true rfl ⟨nofun, nofun⟩

/-! ## The value that mirrors a payload -/

/-- The value says what the payload says, at every depth. Of several fields with one key the last
one counts. -/
inductive Mirrors : Payload → Toml.Value → Prop where
  | boolean (b : Bool) : Mirrors (.boolean b) (.boolean b)
  | integer {n : Int} {i : Int64} (h : i.toInt = n) : Mirrors (.integer n) (.integer i)
  | float (x : Binary64) : Mirrors (.float x) (.float x)
  | string (s : String) : Mirrors (.string s) (.string s)
  | array {items : List Payload} {values : List Toml.Value} (hlength : values.length = items.length)
    (h : ∀ (n : Nat) p v, items[n]? = some p → values[n]? = some v → Mirrors p v) :
    Mirrors (.array items) (.array values)
  | object {fields : List (String × Payload)} {t : Toml.Table} (hordered : Dict.Ordered t)
    (hkeys : ∀ k, (Dict.find? k t).isSome = (Dict.find? k fields.reverse).isSome)
    (h : ∀ k p v, Dict.find? k fields.reverse = some p → Dict.find? k t = some v → Mirrors p v) :
    Mirrors (.object fields) (.table t)

/-- Only one value mirrors a payload. -/
theorem Mirrors.unique {v w : Toml.Value} (hv : p.Mirrors v) (hw : p.Mirrors w) : v = w := by
  induction hv generalizing w with
  | boolean b =>
    cases hw
    rfl
  | integer h =>
    cases hw with
    | integer h' => rw [Int64.toInt_inj.1 (h.trans h'.symm)]
  | float x =>
    cases hw
    rfl
  | string s =>
    cases hw
    rfl
  | @array items values hlength h ih =>
    cases hw with
    | @array _ values' hlength' h' =>
      congr 1
      refine List.ext_getElem (hlength.trans hlength'.symm) fun n hn hn' => ?_
      have hitem : n < items.length := hlength ▸ hn
      exact ih n items[n] values[n] (List.getElem?_eq_getElem hitem) (List.getElem?_eq_getElem hn)
        (h' n items[n] values'[n] (List.getElem?_eq_getElem hitem) (List.getElem?_eq_getElem hn'))
  | @object fields t hordered hkeys h ih =>
    cases hw with
    | @object _ t' hordered' hkeys' h' =>
      congr 1
      refine Dict.eq_of_find? (fun _ _ => String.lt_asymm) hordered hordered' fun k => ?_
      have hsome := (hkeys k).trans (hkeys' k).symm
      cases hfield : Dict.find? k fields.reverse with
      | none =>
        have hnone := hkeys k
        have hnone' := hkeys' k
        rw [hfield, Option.isSome_none, Option.isSome_eq_false_iff, Option.isNone_iff_eq_none]
          at hnone hnone'
        rw [hnone, hnone']
      | some p =>
        have hvalue := hkeys k
        have hvalue' := hkeys' k
        rw [hfield, Option.isSome_some, Option.isSome_iff_exists] at hvalue hvalue'
        obtain ⟨v, hv⟩ := hvalue
        obtain ⟨v', hv'⟩ := hvalue'
        rw [hv, hv', ih k p v hfield hv (h' k p v' hfield hv')]

theorem mirrors_of_values? {values : List Toml.Value}
    (h : ∀ p ∈ items, ∀ v, p.value? = some v → p.Mirrors v) (hvalues : values? items = some values) :
    values.length = items.length ∧
      ∀ (n : Nat) p v, items[n]? = some p → values[n]? = some v → Mirrors p v := by
  induction items generalizing values with
  | nil =>
    cases hvalues
    exact ⟨rfl, nofun⟩
  | cons p items ih =>
    obtain ⟨hp, hitems⟩ := List.forall_mem_cons.1 h
    simp only [values?, Option.bind_eq_bind, Option.bind_eq_some_iff, Option.pure_def,
      Option.some.injEq] at hvalues
    obtain ⟨v, hv, rest, hrest, rfl⟩ := hvalues
    obtain ⟨hlength, hmirrors⟩ := ih hitems hrest
    refine ⟨congrArg Nat.succ hlength, fun n q w hq hw => ?_⟩
    cases n with
    | zero =>
      cases hq
      cases hw
      exact hp v hv
    | succ n => exact hmirrors n q w hq hw

/-- Where the last field with a key is, its value is found. -/
theorem find?_reverse_of_entries? {entries : List (String × Toml.Value)}
    (h : entries? fields = some entries) (k : String) :
    (Dict.find? k fields.reverse = none ∧ Dict.find? k entries.reverse = none) ∨
      ∃ p v, Dict.find? k fields.reverse = some p ∧ Dict.find? k entries.reverse = some v ∧
        p.value? = some v := by
  induction fields generalizing entries with
  | nil =>
    cases h
    exact .inl ⟨rfl, rfl⟩
  | cons f fields ih =>
    obtain ⟨k', p⟩ := f
    simp only [entries?, Option.bind_eq_bind, Option.bind_eq_some_iff, Option.pure_def,
      Option.some.injEq] at h
    obtain ⟨v, hv, rest, hrest, rfl⟩ := h
    rw [List.reverse_cons, List.reverse_cons, Dict.find?_append, Dict.find?_append]
    obtain ⟨hfields, hentries⟩ | ⟨q, w, hfields, hentries, hw⟩ := ih hrest
    · rw [hfields, hentries, Option.none_or, Option.none_or]
      by_cases hk : k = k'
      · exact .inr ⟨p, v, if_pos hk, if_pos hk, hv⟩
      · exact .inl ⟨if_neg hk, if_neg hk⟩
    · rw [hfields, hentries]
      exact .inr ⟨q, w, rfl, rfl, hw⟩

theorem ordered_ofList (entries : List (String × Toml.Value)) :
    Dict.Ordered (Dict.ofList entries) := by
  have hfold : ∀ d : Toml.Table, Dict.Ordered d →
      Dict.Ordered (entries.foldl (fun d e => Dict.insert e.1 e.2 d) d) := by
    induction entries with
    | nil => exact fun d hd => hd
    | cons e entries ih =>
      exact fun d hd => ih _ (Dict.ordered_insert (fun _ _ _ => String.lt_trans)
        Std.lt_trichotomy e.1 e.2 hd)
  exact hfold [] .nil

theorem find?_ofList (k : String) (entries : List (String × Toml.Value)) :
    Dict.find? k (Dict.ofList entries) = Dict.find? k entries.reverse := by
  rw [Dict.ofList, Dict.find?_foldl_insert, Dict.find?, Option.or_none]

/-- **The value of a payload mirrors it.** -/
theorem mirrors_of_value? {v : Toml.Value} (h : p.value? = some v) : p.Mirrors v := by
  induction p using parts_induction generalizing v with
  | null => cases h
  | boolean b =>
    cases h
    exact .boolean b
  | integer n =>
    obtain ⟨i, hi, rfl⟩ := Option.map_eq_some_iff.1 h
    exact .integer (Toml.toInt_of_int64? hi)
  | float x =>
    cases h
    exact .float x
  | string s =>
    cases h
    exact .string s
  | array items ih =>
    obtain ⟨values, hvalues, rfl⟩ := Option.map_eq_some_iff.1 h
    obtain ⟨hlength, hmirrors⟩ := mirrors_of_values? (fun p hp v => ih p hp) hvalues
    exact .array hlength hmirrors
  | object fields ih =>
    obtain ⟨entries, hentries, rfl⟩ := Option.map_eq_some_iff.1 h
    refine .object (ordered_ofList entries) (fun k => ?_) fun k p v hp hv => ?_
    · rw [find?_ofList]
      obtain ⟨hfields, hvalues⟩ | ⟨p, v, hfields, hvalues, -⟩ := find?_reverse_of_entries? hentries k
        <;> rw [hfields, hvalues] <;> rfl
    · rw [find?_ofList] at hv
      obtain ⟨hfields, -⟩ | ⟨q, w, hfields, hvalues, hw⟩ := find?_reverse_of_entries? hentries k
      · cases hp.symm.trans hfields
      · cases hp.symm.trans hfields
        cases hv.symm.trans hvalues
        exact ih _ (List.mem_reverse.1 (Dict.mem_of_find? hfields)) hw

theorem mirrors_iff_of_value? {v w : Toml.Value} (h : p.value? = some v) : p.Mirrors w ↔ w = v :=
  ⟨fun hw => hw.unique (mirrors_of_value? h), fun hw => hw ▸ mirrors_of_value? h⟩

/-! ## Payloads that are tables -/

/-- A payload is an object. -/
def IsObject (p : Payload) : Prop :=
  ∃ fields, p = .object fields

theorem table?_eq_some_iff {t : Toml.Table} : p.table? = some t ↔ p.value? = some (.table t) := by
  cases p with
  | object fields => simp [table?, value?]
  | _ => simp [table?, value?]

/-- **A payload becomes a table if it is an object and all of it fits.** -/
theorem isSome_table?_iff : p.table?.isSome ↔ p.IsObject ∧ p.Fits := by
  rw [← isSome_value?_iff]
  cases p with
  | object fields => simp [table?, value?, IsObject]
  | _ => simp [table?, IsObject]

/-- Payloads have no whole numbers below those of 64 bits, where other numbers take their place. -/
theorem fits_iff (h : ∀ n, Part (.integer n) p → -(twoTo 63 : Int) ≤ n) :
    p.Fits ↔ ¬Part .null p ∧ ∀ n, Part (.integer n) p → n < twoTo 63 := by
  refine ⟨fun hp => ⟨hp.null, fun n hn => (Toml.isSome_int64?_iff.1 (hp.integer n hn)).2⟩,
    fun hp => ⟨hp.1, fun n hn => Toml.isSome_int64?_iff.2 ⟨h n hn, hp.2 n hn⟩⟩⟩

end Payload

/-! ## Settings under a key -/

namespace Config

/-- A payload is refused for the version, or for what it is, or it is put under its key. -/
theorem encode_cases (c : Config) (key : String) (p : Payload) :
    (c.version ≠ version3 ∧
        c.encode key p = .error (.unsupportedField c.version "plugins")) ∨
      (c.version = version3 ∧ ¬(p.IsObject ∧ p.Fits) ∧ c.encode key p = .error (.encode key)) ∨
      (c.version = version3 ∧ (p.IsObject ∧ p.Fits) ∧ ∃ t, p.value? = some (.table t) ∧
        c.encode key p = .ok { c with plugins := Dict.insert key t c.plugins }) := by
  rw [encode, supportsPlugins, ← Payload.isSome_table?_iff]
  by_cases hversion : c.version = version3
  · rw [if_pos (beq_iff_eq.2 hversion)]
    refine .inr ?_
    cases ht : p.table? with
    | none => exact .inl ⟨hversion, Bool.false_ne_true, rfl⟩
    | some t => exact .inr ⟨hversion, rfl, t, Payload.table?_eq_some_iff.1 ht, rfl⟩
  · rw [if_neg fun h => hversion (eq_of_beq h)]
    exact .inl ⟨hversion, rfl⟩

theorem run_store_of_error {c : Config} {key : String} {p : Payload} {e : ConfigError}
    (h : c.encode key p = .error e) :
    (store.encode key p : StateM Config _).run c = (.error e, c) := by
  simp only [store, StateT.run, h]
  rfl

theorem run_store_of_ok {c d : Config} {key : String} {p : Payload}
    (h : c.encode key p = .ok d) :
    (store.encode key p : StateM Config _).run c = (.ok (), d) := by
  simp only [store, StateT.run, h]
  rfl

/-- **What becomes of a document when a payload is put under a key.** A document of another version
than 3 refuses it, whatever it is. One of version 3 takes it exactly if it is an object with no null
and no whole number above those of 64 bits anywhere in it. If the call fails, the document stays as
it is; otherwise the settings for the key are the one table that mirrors the payload, in place of
former ones, and nothing else changes. Whole numbers below those of 64 bits do not occur in a
payload. -/
theorem store_encode (c : Config) (key : String) (p : Payload) :
    let run := (store.encode key p : StateM Config _).run c
    (c.version ≠ version3 → run.1 = .error (.unsupportedField c.version "plugins")) ∧
    (c.version = version3 →
      ((∀ n, Payload.Part (.integer n) p → -(twoTo 63 : Int) ≤ n) →
        (run.1 = .ok () ↔ p.IsObject ∧ ¬Payload.Part .null p ∧
          ∀ n, Payload.Part (.integer n) p → n < twoTo 63)) ∧
      (run.1 = .ok () ∨ run.1 = .error (.encode key))) ∧
    (∀ e, run.1 = .error e → run.2 = c) ∧
    (run.1 = .ok () →
      ∃ t, (∀ v, p.Mirrors v ↔ v = .table t) ∧ run.2.plugin? key = some t ∧
        (∀ key', key' ≠ key → run.2.plugin? key' = c.plugin? key') ∧
        run.2 = { c with plugins := run.2.plugins }) := by
  intro run
  obtain ⟨hversion, hencode⟩ | ⟨hversion, hnot, hencode⟩ | ⟨hversion, hfits, t, ht, hencode⟩ :=
    c.encode_cases key p
  · have hrun : run = _ := run_store_of_error hencode
    rw [hrun]
    refine ⟨fun _ => rfl, fun h => absurd h hversion, fun _ _ => rfl, fun h => ?_⟩
    cases h
  · have hrun : run = _ := run_store_of_error hencode
    rw [hrun]
    refine ⟨fun h => absurd hversion h, fun _ => ⟨fun hjson => ?_, .inr rfl⟩, fun _ _ => rfl,
      fun h => ?_⟩
    · rw [← Payload.fits_iff hjson]
      exact iff_of_false (fun h => by cases h) hnot
    · cases h
  · have hrun : run = _ := run_store_of_ok hencode
    rw [hrun]
    refine ⟨fun h => absurd hversion h, fun _ => ⟨fun hjson => ?_, .inl rfl⟩, fun e he => ?_,
      fun _ => ⟨t, fun v => Payload.mirrors_iff_of_value? ht, ?_, fun key' hne => ?_, rfl⟩⟩
    · rw [← Payload.fits_iff hjson]
      exact iff_of_true rfl hfits
    · cases he
    · exact Dict.find?_insert_self key t c.plugins
    · exact Dict.find?_insert_of_ne hne t c.plugins

/-- A null in a list is one too many, and so is a number that is too great by one; the greatest
number takes the place of the settings before. -/
theorem store_encode_nested :
    let c : Config := { Config.initial with plugins := [("a", [("x", .boolean true)])] }
    let nested (p : Payload) : Payload := .object [("list", .array [p])]
    let run (p : Payload) := (store.encode "a" (nested p) : StateM Config _).run c
    (run .null).1 = .error (.encode "a") ∧
      (run (.integer (twoTo 63))).2.plugin? "a" = some [("x", .boolean true)] ∧
      (run (.integer (twoTo 63 - 1))).1 = .ok () ∧
      ∃ t, (∀ v, (nested (.integer (twoTo 63 - 1))).Mirrors v ↔ v = .table t) ∧
        (run (.integer (twoTo 63 - 1))).2.plugin? "a" = some t := by
  intro c nested run
  have hnested : ∀ q p, (∀ items, q ≠ .array items) → (∀ fields, q ≠ .object fields) →
      (Payload.Part q (nested p) ↔ Payload.Part q p) := fun q p harray hobject => by
    rw [Payload.part_object (hobject _)]
    simp [Payload.part_array (harray _)]
  have hinteger : ∀ {m n : Int}, Payload.Part (.integer n) (nested (.integer m)) ↔ n = m := by
    intro m n
    rw [hnested _ _ (by simp) (by simp)]
    refine ⟨fun h => ?_, fun h => h ▸ .self⟩
    cases h
    rfl
  have hok := fun p => ((store_encode c "a" (nested p)).2.1 rfl).1
  have hor := fun p => ((store_encode c "a" (nested p)).2.1 rfl).2
  have hnull : (run .null).1 = .error (.encode "a") := by
    refine (hor .null).resolve_left fun h => ?_
    have hjson : ∀ n, Payload.Part (.integer n) (nested .null) → -(twoTo 63 : Int) ≤ n :=
      fun n hn => nomatch (hnested _ _ (by simp) (by simp)).1 hn
    exact ((hok .null hjson).1 h).2.1 ((hnested _ _ (by simp) (by simp)).2 .self)
  have hgreat : (run (.integer (twoTo 63))).1 = .error (.encode "a") := by
    refine (hor _).resolve_left fun h => ?_
    have hjson : ∀ n, Payload.Part (.integer n) (nested (.integer (twoTo 63))) →
        -(twoTo 63 : Int) ≤ n := fun n hn => by
      rw [hinteger.1 hn]
      decide
    exact absurd (((hok _ hjson).1 h).2.2 _ (hinteger.2 rfl)) (Int.lt_irrefl _)
  have hgreatest : (run (.integer (twoTo 63 - 1))).1 = .ok () := by
    have hwhole : ∀ n, Payload.Part (.integer n) (nested (.integer (twoTo 63 - 1))) →
        -(twoTo 63 : Int) ≤ n ∧ n < twoTo 63 := fun n hn => by
      rw [hinteger.1 hn]
      decide
    refine (hok _ fun n hn => (hwhole n hn).1).2 ⟨⟨_, rfl⟩, fun h => ?_, fun n hn => (hwhole n hn).2⟩
    exact nomatch (hnested .null _ (by simp) (by simp)).1 h
  refine ⟨hnull, ?_, hgreatest, ?_⟩
  · rw [(store_encode c "a" (nested (.integer (twoTo 63)))).2.2.1 _ hgreat]
    rfl
  · obtain ⟨t, hmirrors, hplugin, -⟩ := (store_encode c "a" _).2.2.2 hgreatest
    exact ⟨t, hmirrors, hplugin⟩

end Config

end Downstream
