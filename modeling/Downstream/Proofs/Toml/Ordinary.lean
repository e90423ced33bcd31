import Downstream.Proofs.Toml.Verbatim
import Downstream.Toml.Found

/-!
# Items that mean what they show

An item is ordinary if its numbers are ones that a value holds, there are no moments in it, and no
table in it has the key under which moments hide (`Item.IsOrdinary`, at every depth). Its numbers
then also fit a message (`Item.fits_of_everywhere`). Where numbers fit a message, no word stands in
the place of a number (`Item.not_part_unreadable_of_fits`).
-/

namespace Downstream.Toml.Item

variable {i : Item} {items : List Item} {entries : List (String × Item)}

/-- A table without the key for moments, or no table. -/
def HasOtherKeys : Item → Prop
  | .table entries => ∀ e ∈ entries, e.1 ≠ momentKey
  | _ => True

/-- A number that fits, a table without the key for moments, or something else but a moment. -/
def IsOrdinary : Item → Prop
  | .integer n => (int64? n).isSome
  | .unreadable => False
  | .float x => x.toBinary64?.isSome
  | .moment _ => False
  | .table entries => ∀ e ∈ entries, e.1 ≠ momentKey
  | _ => True

instance : DecidablePred IsOrdinary
  | .integer n => inferInstanceAs (Decidable ((int64? n).isSome = true))
  | .unreadable => inferInstanceAs (Decidable False)
  | .float x => inferInstanceAs (Decidable (x.toBinary64?.isSome = true))
  | .moment _ => inferInstanceAs (Decidable False)
  | .table entries => inferInstanceAs (Decidable (∀ e ∈ entries, e.1 ≠ momentKey))
  | .string _ | .boolean _ | .array _ => inferInstanceAs (Decidable True)

theorem HasOtherKeys.isItself (h : i.HasOtherKeys) : i.IsItself := by
  cases i with
  | table entries => exact fun e he => h e (List.mem_of_mem_head? he)
  | _ => trivial

theorem IsOrdinary.hasOtherKeys (h : i.IsOrdinary) : i.HasOtherKeys := by
  cases i with
  | table entries => exact h
  | _ => trivial

theorem IsOrdinary.isFit (h : i.IsOrdinary) : i.Fits := by
  cases i with
  | integer n => exact h
  | unreadable => exact h
  | float x => exact h
  | _ => trivial

/-- An ordinary item has a value, which says what it says. -/
theorem exists_verbatim_of_ordinary (h : i.Everywhere IsOrdinary) :
    ∃ v, Value.ofItem? i = some v ∧ i.Verbatim v := by
  have hself := h.imp fun _ hq => hq.hasOtherKeys.isItself
  obtain ⟨v, hv⟩ := Option.isSome_iff_exists.1
    ((Value.isSome_ofItem?_iff hself).2 (h.imp fun _ hq => hq.isFit))
  exact ⟨v, hv, (Value.verbatim_iff_of_ofItem? hv).2 hself⟩

/-! ## Numbers in messages -/

theorem allFit_iff : allFit items = true ↔ ∀ i ∈ items, i.fits = true := by
  induction items with
  | nil => simp [allFit]
  | cons i items ih => simp [allFit, ih]

theorem entriesFit_iff : entriesFit entries = true ↔ ∀ e ∈ entries, e.2.fits = true := by
  induction entries with
  | nil => simp [entriesFit]
  | cons e entries ih =>
    obtain ⟨k, i⟩ := e
    simp [entriesFit, ih]

theorem isSome_foundInteger? {n : Int} (h : (int64? n).isSome) : (foundInteger? n).isSome := by
  obtain ⟨hmin, hmax⟩ := isSome_int64?_iff.1 h
  have hle : (twoTo 63 : Int) ≤ twoTo 64 := by decide
  rw [foundInteger?, if_pos ⟨hmin, Int.lt_of_lt_of_le hmax hle⟩]
  rfl

/-- Numbers that a value holds fit a message. -/
theorem fits_of_everywhere (h : i.Everywhere Fits) : i.fits = true := by
  induction i using parts_induction with
  | integer n => exact isSome_foundInteger? h.here
  | unreadable => exact h.here.elim
  | float x => exact h.here
  | array items ih =>
    rw [fits, allFit_iff]
    exact fun i hi => ih i hi ((everywhere_array.1 h).2 i hi)
  | table entries ih =>
    rw [fits, entriesFit_iff]
    exact fun e he => ih e he ((everywhere_table.1 h).2 e he)
  | string s => rfl
  | boolean b => rfl
  | moment m => rfl

/-- Where numbers fit a message, no word stands in the place of a number. -/
theorem not_part_unreadable_of_fits (h : i.fits = true) : ¬Part .unreadable i := by
  intro hpart
  induction hpart with
  | self => cases h
  | element hmem _ ih =>
    rw [fits, allFit_iff] at h
    exact ih (h _ hmem)
  | entry hmem _ ih =>
    rw [fits, entriesFit_iff] at h
    exact ih (h _ hmem)

end Downstream.Toml.Item
