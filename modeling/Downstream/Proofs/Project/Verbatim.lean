import Mathlib
import Downstream.Proofs.Project.Fields

/-!
# Settings as they stand in the document

A document that is read has a table of plugins or none. The settings of a plugin are the table that
stands there, value for value, unless a table in it starts with the key for moments: then that table
is taken for a moment. A plugin may also have a moment in place of a table, which is taken for a
table with that key (`Config.parse_plugins`).
-/

namespace Downstream

/-- Entries with the same keys, one by one, have related values where one looks for a key. -/
theorem Dict.find?_of_keys {α β : Type} {r : α → β → Prop} {d : Dict String α} {d' : Dict String β}
    (hkeys : d'.map Prod.fst = d.map Prod.fst)
    (h : ∀ (n : Nat) e f, d[n]? = some e → d'[n]? = some f → r e.2 f.2) (k : String) :
    (Dict.find? k d = none ∧ Dict.find? k d' = none) ∨
      ∃ v w, Dict.find? k d = some v ∧ Dict.find? k d' = some w ∧ r v w := by
  induction d generalizing d' with
  | nil =>
    obtain rfl : d' = [] := List.map_eq_nil_iff.1 hkeys
    exact .inl ⟨rfl, rfl⟩
  | cons e d ih =>
    cases d' with
    | nil => cases hkeys
    | cons f d' =>
      rw [List.map_cons, List.map_cons, List.cons.injEq] at hkeys
      rw [Dict.find?, Dict.find?, hkeys.1]
      by_cases hk : k = e.1
      · rw [if_pos hk, if_pos hk]
        exact .inr ⟨e.2, f.2, rfl, rfl, h 0 e f rfl rfl⟩
      · rw [if_neg hk, if_neg hk]
        exact ih hkeys.2 fun n => h (n + 1)

namespace Config

open Toml (Item Value)

/-- **What the settings of plugins are.** Where a text is read, the document has no plugins, and
then none have settings, or a table of them, and then these keys and no others have settings. What
stands under a key is a moment, which becomes a table with its text under the key for moments, or a
table. This one is held value for value, with moments in place of the tables in it that start with
that key; so it is held as it is exactly if there are none. -/
theorem parse_plugins {path text : String} {c : Config} (h : parse path text = .ok c) :
    ∃ fields, Toml.read? text = some fields ∧
      ((Dict.find? "plugins" fields = none ∧ c.plugins = []) ∨
        ∃ entries, Dict.find? "plugins" fields = some (.table entries) ∧
          c.plugins.map Prod.fst = entries.map Prod.fst ∧
          ∀ k, (Dict.find? k entries = none ∧ c.plugin? k = none) ∨
            (∃ m, Dict.find? k entries = some (.moment m) ∧
              c.plugin? k = some [(Toml.momentKey, .string (String.ofList m.text))]) ∨
            ∃ settings t, Dict.find? k entries = some (.table settings) ∧ c.plugin? k = some t ∧
              (Item.table (Item.datedEntries settings)).Verbatim (.table t) ∧
              ((Item.table settings).Verbatim (.table t) ↔
                ∀ e ∈ settings, e.2.Everywhere Item.IsItself)) := by
  obtain ⟨fields, hfields, hc, -⟩ := parse_eq_ok_iff.1 h
  refine ⟨fields, hfields, ?_⟩
  cases Toml.inOrder_of_read? hfields with
  | table hordered _ =>
    rw [ofFields_eq_ofKnown hordered (fits_of_ofFields hc), ofKnown_eq_ok_iff] at hc
    obtain ⟨-, -, ⟨read, hread, hplugins⟩, -⟩ := hc
    obtain ⟨hnone, rfl⟩ | ⟨i, plugins, hsome, rfl, hread'⟩ := readOptional_eq_ok_iff.1 hread
    · exact .inl ⟨hnone, hplugins.symm⟩
    obtain rfl : plugins = c.plugins := hplugins
    obtain ⟨entries, rfl, hkeys, hentries⟩ := of_readPlugins hread'
    refine .inr ⟨entries, hsome, hkeys, fun k => ?_⟩
    obtain hnone | ⟨i, t, hi, ht, hplugin⟩ :=
      Dict.find?_of_keys (r := fun i t => readPlugin i = .ok t) hkeys hentries k
    · exact .inl hnone
    obtain ⟨m, rfl, rfl⟩ | ⟨settings, rfl, hsettings⟩ := readPlugin_eq_ok_iff.1 hplugin
    · exact .inr (.inl ⟨m, hi, ht⟩)
    · exact .inr (.inr ⟨settings, t, hi, ht, Value.verbatim_dated_of_ofEntries? hsettings,
        Value.verbatim_iff_of_ofEntries? hsettings⟩)

/-- Settings with a list of a time and a number in a table in a table. -/
def nestedText : String :=
  "version = '3'\nplugins.b.x.y = [07:32:00, 1]\n"

theorem read?_nestedText : Toml.read? nestedText =
    some [("plugins", .table [("b", .table [("x", .table [("y",
      .array [.moment (.time ⟨7, 32, 0, 0⟩), .integer 1])])])]), ("version", .string "3")] := by
  cbv

theorem parse_nestedText : ∃ c, parse "PROJECT.toml" nestedText = .ok c :=
  ⟨{ version := "3", plugins := [("b", [("x", .table [("y",
    .array [.moment (.time ⟨7, 32, 0, 0⟩), .integer 1])])])] }, by cbv⟩

theorem parse_plugins_nested : ∃ c t, parse "PROJECT.toml" nestedText = .ok c ∧
    c.plugin? "b" = some t ∧
    (Item.table [("x", .table [("y", .array [.moment (.time ⟨7, 32, 0, 0⟩), .integer 1])])]).Verbatim
      (.table t) := by
  obtain ⟨c, hc⟩ := parse_nestedText
  obtain ⟨fields, hfields, hplugins⟩ := parse_plugins hc
  obtain rfl := Option.some.inj (read?_nestedText.symm.trans hfields)
  obtain ⟨hnone, -⟩ | ⟨entries, hentries, -, hkey⟩ := hplugins
  · cases hnone
  cases hentries
  obtain ⟨hnone, -⟩ | ⟨m, hm, -⟩ | ⟨settings, t, hsettings, ht, hdated, -⟩ := hkey "b"
  · cases hnone
  · cases hm
  · cases hsettings
    exact ⟨c, t, hc, ht, hdated⟩

/-- A plugin whose settings are a day. -/
def datedText : String :=
  "version = '3'\nplugins.a = 1979-05-27\n"

/-- Settings that stand in a document as no table are read as one, with a key that is not there. -/
theorem parse_plugin_moment :
    (∃ m, Toml.read? datedText =
      some [("plugins", .table [("a", .moment m)]), ("version", .string "3")]) ∧
    ∃ c, parse "PROJECT.toml" datedText = .ok c ∧
      c.plugin? "a" = some [(Toml.momentKey, .string "1979-05-27")] := by
  refine ⟨⟨.date ⟨1979, 5, 27, by decide⟩, ?_⟩, { version := "3", plugins := [("a",
    [(Toml.momentKey, .string "1979-05-27")])] }, ?_, rfl⟩
  · cbv
  · cbv

end Config

end Downstream
