import Downstream.Proofs.Text.Utf8

/-!
# Runs of characters

`run p` is the number of bytes of the longest run of characters at the front of a text that all
satisfy `p`; bytes that encode no character end it. A run is as long as it can be (`run_drop_run`),
goes through ASCII characters byte by byte (`run_append`), and whether there is one at all depends
on the first character only (`run_eq_zero_iff`).
-/

namespace Downstream.Utf8

variable (p : Char → Bool)

/-- Whether a text starts with a character that `p` holds of. -/
def starts (text : Bytes) : Bool :=
  match decode? text with
  | some (c, _) => p c
  | none => false

/-- The number of bytes, from `skip` bytes on, of the characters at the front that `p` holds of, and
of the bytes that are skipped. -/
def runFrom : (skip : Nat) → Bytes → Nat
  | _, [] => 0
  | skip + 1, _ :: rest => runFrom skip rest + 1
  | 0, b :: rest =>
    match decode? (b :: rest) with
    | some (c, width) => if p c then runFrom (width - 1) rest + 1 else 0
    | none => 0

/-- The number of bytes of the characters at the front of a text that `p` holds of. -/
def run (text : Bytes) : Nat :=
  runFrom p 0 text

variable {p}

theorem runFrom_eq {skip : Nat} {text : Bytes} (h : skip ≤ text.length) :
    runFrom p skip text = skip + run p (text.drop skip) := by
  induction text generalizing skip with
  | nil =>
    rw [List.length_nil, Nat.le_zero] at h
    subst h
    rfl
  | cons b rest ih =>
    cases skip with
    | zero => rw [Nat.zero_add, List.drop_zero, run]
    | succ skip =>
      rw [runFrom, ih (by simpa using h), List.drop_succ_cons]
      omega

theorem run_of_starts {text : Bytes} {c : Char} {width : Nat} (h : decode? text = some (c, width))
    (hp : p c = true) : run p text = width + run p (text.drop width) := by
  obtain ⟨hpos, -, hlen⟩ := decode?_width h
  cases text with
  | nil => cases h
  | cons b rest =>
    rw [List.length_cons] at hlen
    obtain ⟨k, rfl⟩ : ∃ k, width = k + 1 := ⟨width - 1, by omega⟩
    simp only [run, runFrom, h, hp, if_true, Nat.add_sub_cancel]
    rw [runFrom_eq (by omega), List.drop_succ_cons, run]
    omega

theorem exists_of_starts {text : Bytes} (h : starts p text = true) :
    ∃ c width, decode? text = some (c, width) ∧ p c = true := by
  rw [starts] at h
  split at h
  next c width hd => exact ⟨c, width, hd, h⟩
  next => cases h

theorem run_of_not_starts {text : Bytes} (h : starts p text = false) : run p text = 0 := by
  cases text with
  | nil => rfl
  | cons b rest =>
    simp only [run, runFrom]
    rw [starts] at h
    cases hd : decode? (b :: rest) with
    | none => rfl
    | some q =>
      simp only [hd] at h
      simp [h]

/-- Along a run: no character of the run starts here, or the run goes on behind one. -/
@[elab_as_elim]
theorem run_induction {motive : Bytes → Prop}
    (stop : ∀ text, starts p text = false → motive text)
    (step : ∀ text c width, decode? text = some (c, width) → p c = true →
      motive (text.drop width) → motive text)
    (text : Bytes) : motive text := by
  induction hlen : text.length using Nat.strongRecOn generalizing text with
  | ind len ih =>
    by_cases hs : starts p text = true
    · obtain ⟨c, width, hd, hp⟩ := exists_of_starts hs
      obtain ⟨hpos, -, hle⟩ := decode?_width hd
      exact step text c width hd hp (ih _ (by rw [List.length_drop]; omega) _ rfl)
    · exact stop text (by simpa using hs)

theorem run_eq_zero_iff {text : Bytes} : run p text = 0 ↔ starts p text = false := by
  refine ⟨fun h => ?_, run_of_not_starts⟩
  rw [← Bool.not_eq_true]
  intro hs
  obtain ⟨c, width, hd, hp⟩ := exists_of_starts hs
  have hpos := (decode?_width hd).1
  rw [run_of_starts hd hp] at h
  omega

theorem run_le_length (text : Bytes) : run p text ≤ text.length := by
  induction text using run_induction (p := p) with
  | stop text hs =>
    rw [run_of_not_starts hs]
    exact Nat.zero_le _
  | step text c width hd hp ih =>
    have hle := (decode?_width hd).2.2
    rw [List.length_drop] at ih
    rw [run_of_starts hd hp]
    omega

/-- Behind a run there is no further character that would belong to it. -/
theorem run_drop_run (text : Bytes) : run p (text.drop (run p text)) = 0 := by
  induction text using run_induction (p := p) with
  | stop text hs => rw [run_of_not_starts hs, List.drop_zero, run_of_not_starts hs]
  | step text c width hd hp ih => rw [run_of_starts hd hp, ← List.drop_drop, ih]

/-- Whether a byte is an ASCII character that `p` holds of. -/
def IsAscii (p : Char → Bool) (b : UInt8) : Prop :=
  b < 0x80 ∧ p (Char.ofNat b.toNat) = true

instance (p : Char → Bool) (b : UInt8) : Decidable (IsAscii p b) :=
  inferInstanceAs (Decidable (_ ∧ _))

theorem starts_cons {b : UInt8} (h : IsAscii p b) (rest : Bytes) : starts p (b :: rest) = true := by
  rw [starts, decode?_ascii h.1]
  exact h.2

/-- A run goes through ASCII characters byte by byte. -/
theorem run_append {w : Bytes} (h : ∀ b ∈ w, IsAscii p b) (v : Bytes) :
    run p (w ++ v) = w.length + run p v := by
  induction w with
  | nil => rw [List.nil_append, List.length_nil, Nat.zero_add]
  | cons b w ih =>
    have hb := h b List.mem_cons_self
    rw [List.cons_append, run_of_starts (decode?_ascii hb.1 _) hb.2, List.drop_succ_cons,
      List.drop_zero, ih fun c hc => h c (List.mem_cons_of_mem b hc), List.length_cons]
    omega

/-- A run ends before a text that does not go on with it. -/
theorem run_append_of_not_starts {u : Bytes} (hf : Fresh u) (hs : starts p u = false) (w : Bytes) :
    run p (w ++ u) = run p w := by
  induction w using run_induction (p := p) with
  | stop w hw =>
    rw [run_of_not_starts hw]
    apply run_of_not_starts
    cases w with
    | nil => exact hs
    | cons b w =>
      rw [starts, decode?_congr (List.cons_ne_nil b w) hf fresh_nil, List.append_nil]
      exact hw
  | step w c width hd hp ih =>
    have hlen := (decode?_width hd).2.2
    have hne : w ≠ [] := by
      rintro rfl
      cases hd
    have hd' : decode? (w ++ u) = some (c, width) := by
      rw [decode?_congr hne hf fresh_nil, List.append_nil, hd]
    rw [run_of_starts hd hp, run_of_starts hd' hp, List.drop_append_of_le_length hlen, ih]

/-- What stands behind the first byte, from a byte on that continues nothing, does not count. -/
theorem starts_congr {w u v : Bytes} (hw : w ≠ []) (hu : Fresh u) (hv : Fresh v) :
    starts p (w ++ u) = starts p (w ++ v) := by
  rw [starts, starts, decode?_congr hw hu hv]

theorem starts_append {u v : Bytes} (hu : Fresh u) (hv : Fresh v) (h : starts p u = starts p v)
    (w : Bytes) : starts p (w ++ u) = starts p (w ++ v) := by
  cases w with
  | nil => exact h
  | cons b w => exact starts_congr (List.cons_ne_nil b w) hu hv

end Downstream.Utf8
