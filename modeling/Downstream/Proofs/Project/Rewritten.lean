import Downstream.Proofs.Project.RoundTrip
import Downstream.Proofs.Toml.InOrder
import Downstream.Scaffold

/-!
# Documents that were read are written so that they are read again

The settings in a document that was read are sound (`sound_of_parse`), also when the marker has been
put among them (`SoundSettings.insert`). So the document is read again from the text that it is
written as, and writing it once more gives this text, unless the text is beyond the limits of the
reader (`parse_text_of_parse`): the keys of a header may be more than those of the dotted keys and
headers that the table was read from, one by one.
-/

namespace Downstream.Config

open Toml (Item Value)

variable {c d : Config}

/-- A computation that succeeds does so step by step. -/
theorem exists_of_bind_eq_ok {ε α β : Type} {x : Except ε α} {f : α → Except ε β} {b : β}
    (h : x >>= f = .ok b) : ∃ a, x = .ok a ∧ f a = .ok b := by
  cases x with
  | error e => cases h
  | ok a => exact ⟨a, rfl, h⟩

/-! ## Settings that are read -/

theorem sound_of_readPlugin {i : Item} (h : i.InOrder) {t : Toml.Table}
    (ht : readPlugin i = .ok t) : Dict.Ordered t ∧ ∀ f ∈ t, f.2.Sound := by
  cases h with
  | @table entries hordered hentries =>
    rw [readPlugin] at ht
    split at ht
    next t' ht' =>
      cases ht
      obtain ⟨hkeys, hsound⟩ :=
        Value.sound_of_ofEntries? (fun e he v => (hentries e he).sound) ht'
      refine ⟨?_, hsound⟩
      rwa [Value.ordered_iff_keys, hkeys, ← Value.ordered_iff_keys]
    · cases ht
  | moment m =>
    cases ht
    exact ⟨List.pairwise_singleton _ _, List.forall_mem_singleton.2 (.string _)⟩
  | _ => cases ht

theorem sound_of_readPlugins {i : Item} (h : i.InOrder) {plugins : Dict String Toml.Table}
    (hplugins : readPlugins i = .ok plugins) : SoundSettings plugins := by
  cases h with
  | @table entries hordered hentries =>
    have hread : plugins.map Prod.fst = entries.map Prod.fst ∧
        ∀ e ∈ plugins, Dict.Ordered e.2 ∧ ∀ f ∈ e.2, f.2.Sound := by
      clear hordered
      rw [readPlugins] at hplugins
      induction entries generalizing plugins with
      | nil =>
        cases hplugins
        exact ⟨rfl, List.forall_mem_nil _⟩
      | cons e entries ih =>
        obtain ⟨he, hrest⟩ := List.forall_mem_cons.1 hentries
        rw [List.mapM_cons] at hplugins
        obtain ⟨p, hp, hplugins⟩ := exists_of_bind_eq_ok hplugins
        obtain ⟨t, ht, hp⟩ := exists_of_bind_eq_ok hp
        obtain ⟨more, hmore, hplugins⟩ := exists_of_bind_eq_ok hplugins
        cases hp
        cases hplugins
        obtain ⟨hkeys, hsound⟩ := ih hrest hmore
        exact ⟨by rw [List.map_cons, List.map_cons, hkeys],
          List.forall_mem_cons.2 ⟨sound_of_readPlugin he ht, hsound⟩⟩
    refine ⟨?_, fun e he => (hread.2 e he).1, fun e he => (hread.2 e he).2⟩
    rwa [Value.ordered_iff_keys, hread.1, ← Value.ordered_iff_keys]
  | moment m => cases hplugins
  | _ => cases hplugins

theorem soundSettings_nil : SoundSettings [] :=
  ⟨.nil, nofun, nofun⟩

/-- A field that is read leaves the settings sound. -/
theorem sound_of_readField {d d' : Draft} (h : SoundSettings d.plugins) {name : String} {i : Item}
    (hi : i.InOrder) (hd : d.readField name i = .ok d') : SoundSettings d'.plugins := by
  unfold Draft.readField at hd
  split at hd
  · obtain ⟨_, -, hd⟩ := exists_of_bind_eq_ok hd
    cases hd
    exact h
  split at hd
  · obtain ⟨_, -, hd⟩ := exists_of_bind_eq_ok hd
    cases hd
    exact h
  split at hd
  · obtain ⟨plugins, hplugins, hd⟩ := exists_of_bind_eq_ok hd
    cases hd
    exact sound_of_readPlugins hi hplugins
  split at hd
  · obtain ⟨_, -, hd⟩ := exists_of_bind_eq_ok hd
    cases hd
    exact h
  split at hd
  · obtain ⟨_, -, hd⟩ := exists_of_bind_eq_ok hd
    cases hd
    exact h
  split at hd
  · cases hd
    exact h
  · cases hd

theorem sound_of_readFields {fields : Dict String Item} (hfields : ∀ e ∈ fields, e.2.InOrder)
    {d d' : Draft} (h : SoundSettings d.plugins) (hd : d.readFields fields = .ok d') :
    SoundSettings d'.plugins := by
  rw [Draft.readFields] at hd
  induction fields generalizing d with
  | nil =>
    cases hd
    exact h
  | cons e fields ih =>
    obtain ⟨he, hrest⟩ := List.forall_mem_cons.1 hfields
    rw [List.foldlM_cons] at hd
    obtain ⟨next, hnext, hd⟩ := exists_of_bind_eq_ok hd
    exact ih hrest (sound_of_readField h he hnext) hd

theorem sound_of_ofFields {fields : Dict String Item} (hfields : ∀ e ∈ fields, e.2.InOrder)
    (h : ofFields fields = .ok c) : SoundSettings c.plugins := by
  obtain ⟨d, hd, h⟩ := exists_of_bind_eq_ok h
  have hsound := sound_of_readFields hfields (d := {}) soundSettings_nil hd
  split at h
  · cases h
  · cases h
    exact hsound

/-- **A document that was read has sound settings** and a version that there is. -/
theorem sound_of_parse {path text : String} (h : parse path text = .ok c) :
    SoundSettings c.plugins ∧ c.validate = .ok () := by
  obtain ⟨document, hdocument, hc, hvalid⟩ := parse_eq_ok_iff.1 h
  cases Toml.inOrder_of_read? hdocument with
  | table _ hin => exact ⟨sound_of_ofFields hin hc, hvalid⟩

/-! ## The marker -/

theorem SoundSettings.insert {plugins : Dict String Toml.Table} (h : SoundSettings plugins)
    {t : Toml.Table} (hordered : Dict.Ordered t) (hsound : ∀ f ∈ t, f.2.Sound) (k : String) :
    SoundSettings (Dict.insert k t plugins) where
  ordered := Dict.ordered_insert (fun _ _ _ => String.lt_trans) Std.lt_trichotomy k t h.ordered
  tables e he := by
    rcases Dict.mem_insert he with rfl | he
    · exact hordered
    · exact h.tables e he
  values e he := by
    rcases Dict.mem_insert he with rfl | he
    · exact hsound
    · exact h.values e he

/-- A payload goes to its key if it is a table and the document is of version 3, which alone has a
place for it. -/
theorem encode_eq_ok_iff {key : String} {payload : Payload} : c.encode key payload = .ok d ↔
    c.version = version3 ∧
      ∃ t, payload.table? = some t ∧ d = { c with plugins := Dict.insert key t c.plugins } := by
  rw [encode, supportsPlugins]
  by_cases hversion : c.version = version3
  · rw [if_pos (beq_iff_eq.2 hversion)]
    cases payload.table? <;> simp [hversion, eq_comm]
  · rw [if_neg fun h => hversion (eq_of_beq h)]
    simp [hversion]

theorem encode_empty_eq_ok {key : String} (h : c.encode key .empty = .ok d) :
    c.version = version3 ∧ d = { c with plugins := Dict.insert key [] c.plugins } := by
  obtain ⟨hversion, t, ht, rfl⟩ := encode_eq_ok_iff.1 h
  cases ht
  exact ⟨hversion, rfl⟩

/-! ## Writing and reading again -/

/-- A document that was read, perhaps with the marker, is read again as it is written, unless the
text is beyond the limits of the reader. -/
theorem parse_text_of_parse {path text : String} (h : parse path text = .ok c)
    (hd : d = c ∨ c.encode markerKey .empty = .ok d) :
    parse path d.text = if d.WithinLimits then .ok d else .error (.parse path .malformed) := by
  obtain ⟨hsound, hvalid⟩ := sound_of_parse h
  rcases hd with rfl | hd
  · exact parse_text hsound hvalid path
  · obtain ⟨hversion, rfl⟩ := encode_empty_eq_ok hd
    have hvalid : validate { c with plugins := Dict.insert markerKey [] c.plugins } = .ok () := by
      rw [validate, if_pos hversion]
    exact parse_text (hsound.insert .nil nofun markerKey) hvalid path

/-! ### Two documents -/

/-- A document whose lines say something that `p` holds of. -/
theorem exists_parse_ofList {s : List Char} {p : Config → Bool}
    (hmark : s.head? ≠ some '\ufeff')
    (h : ((Toml.readLines? s).bind fun fields => (ofFields fields).toOption).any
      (fun c => c.version == version3 && p c) = true) (path : String) :
    ∃ c, parse path (String.ofList s) = .ok c ∧ c.version = version3 ∧ p c = true := by
  have hmark : StartsOutside (· = '\ufeff') s := fun c hc => decide_eq_false fun heq =>
    hmark (heq ▸ hc)
  rw [← Toml.read?_ofList hmark, Option.any_eq_true] at h
  obtain ⟨c, hc, hp⟩ := h
  obtain ⟨fields, hfields, hc⟩ := Option.bind_eq_some_iff.1 hc
  rw [Bool.and_eq_true, beq_iff_eq] at hp
  have hc : ofFields fields = .ok c := by
    cases hd : ofFields fields with
    | error e => simp [hd, Except.toOption] at hc
    | ok d => simpa [hd, Except.toOption] using hc
  have hvalid : c.validate = .ok () := by rw [validate, if_pos hp.1]
  exact ⟨c, parse_eq_ok_iff.2 ⟨fields, hfields, hc, hvalid⟩, hp⟩

/-- The text of a document with settings under a dotted key. -/
def dottedText : List Char :=
  "plugins.a.\"b c\".d = [1979-05-27, nan, \x7b x.y = 1 \x7d]\nversion = '3'\n".toList

theorem parse_text_of_parse_dotted :
    ∃ c d, parse "PROJECT.toml" (String.ofList dottedText) = .ok c ∧
      c.encode markerKey .empty = .ok d ∧ parse "PROJECT.toml" d.text = .ok d := by
  obtain ⟨c, hc, hversion, hlimits⟩ := exists_parse_ofList (s := dottedText)
    (p := fun c => decide (WithinLimits { c with plugins := Dict.insert markerKey [] c.plugins }))
    (by decide +kernel) (by decide +kernel) "PROJECT.toml"
  have hd : c.encode markerKey .empty =
      .ok { c with plugins := Dict.insert markerKey [] c.plugins } := by
    rw [encode, supportsPlugins, hversion]
    rfl
  exact ⟨c, _, hc, hd, (parse_text_of_parse hc (.inr hd)).trans (if_pos (of_decide_eq_true hlimits))⟩

/-- The text of a document with settings under sixty keys of a header and sixty-one dotted keys. -/
def longPathText : List Char :=
  "version = \"3\"\n[plugins".toList ++ (List.replicate 60 ['.', 'a']).flatten ++
    ']' :: '\n' :: (List.replicate 60 ['b', '.']).flatten ++ "c = 1\n".toList

/-- The limits are needed: a document can be read that is refused as it is written. -/
theorem parse_text_refused : ∃ c, parse "PROJECT.toml" (String.ofList longPathText) = .ok c ∧
    parse "PROJECT.toml" c.text = .error (.parse "PROJECT.toml" .malformed) := by
  obtain ⟨c, hc, -, hlimits⟩ := exists_parse_ofList (s := longPathText)
    (p := fun c => !decide c.WithinLimits) (by decide +kernel) (by decide +kernel) "PROJECT.toml"
  rw [Bool.not_eq_true', decide_eq_false_iff_not] at hlimits
  obtain ⟨hsound, hvalid⟩ := sound_of_parse hc
  exact ⟨c, hc, (parse_text hsound hvalid _).trans (if_neg hlimits)⟩

end Downstream.Config
