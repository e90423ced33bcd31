import Downstream.Proofs.Text.Digit
import Downstream.Proofs.Text.Front
import Downstream.Toml.Moment

/-!
# Moments are read as they were written

Dates, times of day and offsets are read up to the end of their digits (`Date.take?_text`,
`Time.take?_text`, `Offset.take?_text`), so a whole moment is read as it was written
(`Moment.read?_text`). A word without a colon that starts with no date is no moment
(`Moment.read?_eq_none`).
-/

namespace Downstream.Toml

variable {ds rest : List Char} {n width : Nat}

theorem takeDigits_append (h : IsDigits ds) (n : Nat) (rest : List Char) :
    takeDigits ds.length n (ds ++ rest) = some (numberOn 10 n ds, rest) := by
  induction ds generalizing n with
  | nil => rfl
  | cons c ds ih =>
    obtain ⟨hc, hds⟩ := List.forall_mem_cons.1 h
    simp only [List.length_cons, List.cons_append, takeDigits, digitValue?_ten hc, ih hds, numberOn]

theorem takeDigits_paddedDigits (hwidth : 0 < width) (h : n < tenTo width) (rest : List Char) :
    takeDigits width 0 (paddedDigits width n ++ rest) = some (n, rest) := by
  have htake := takeDigits_append (isDigits_paddedDigits width n) 0 rest
  rwa [length_paddedDigits hwidth h, ← number, number_paddedDigits] at htake

@[simp] theorem takeChar_cons (c : Char) (rest : List Char) : takeChar c (c :: rest) = some rest := by
  simp [takeChar]

/-! ## Parts -/

theorem Date.take?_text (d : Date) (rest : List Char) :
    Date.take? (d.text ++ rest) = some (d, rest) := by
  obtain ⟨hyear, -, hmonth, -, hday⟩ := d.valid
  have hdays : daysIn d.year d.month ≤ 31 := by
    simp only [daysIn]
    repeat' split
    all_goals omega
  have hyear' := takeDigits_paddedDigits (by decide) (show d.year < tenTo 4 from hyear)
  have hmonth' := takeDigits_paddedDigits (by decide)
    (show d.month < tenTo 2 from Nat.lt_of_le_of_lt hmonth (by decide))
  have hday' := takeDigits_paddedDigits (by decide)
    (show d.day < tenTo 2 from Nat.lt_of_le_of_lt (Nat.le_trans hday hdays) (by decide))
  simp [take?, text, hyear', hmonth', hday', of?, d.valid]

namespace Time

theorem exists_eq_trimZeros_append (ds : List Char) :
    ∃ k, ds = trimZeros ds ++ List.replicate k '0' := by
  refine ⟨(ds.reverse.takeWhile (· = '0')).length, ?_⟩
  have hzeros : ds.reverse.takeWhile (· = '0') =
      List.replicate (ds.reverse.takeWhile (· = '0')).length '0' := by
    refine List.eq_replicate_of_mem fun c hc => ?_
    simpa using List.all_eq_true.1 List.all_takeWhile c hc
  have hsplit := congrArg List.reverse (List.takeWhile_append_dropWhile
    (p := fun c => decide (c = '0')) (l := ds.reverse))
  rw [List.reverse_append, List.reverse_reverse] at hsplit
  conv => lhs; rw [← hsplit, hzeros]
  rw [List.reverse_replicate]
  rfl

/-- Zeros at the end of a fraction do not count. -/
theorem number_trimZeros (h : IsDigits ds) :
    IsDigits (trimZeros ds) ∧ (trimZeros ds).length ≤ ds.length ∧
      number 10 (trimZeros ds) * tenTo (ds.length - (trimZeros ds).length) = number 10 ds := by
  obtain ⟨k, hk⟩ := exists_eq_trimZeros_append ds
  have htrimmed : IsDigits (trimZeros ds) := fun c hc =>
    h c (hk ▸ List.mem_append_left _ hc)
  have hlength : ds.length = (trimZeros ds).length + k := by
    simpa using congrArg List.length hk
  refine ⟨htrimmed, by omega, ?_⟩
  have hnumber := congrArg (number 10) hk
  rw [number_append htrimmed (isDigits_replicate_zero k), number_replicate_zero,
    List.length_replicate, Nat.add_zero] at hnumber
  rw [hnumber, hlength, Nat.add_sub_cancel_left]

/-- A fraction is read up to the end of its digits. -/
theorem takeFraction?_text {n : Fin 1000000000} (hn : n.val ≠ 0)
    (hrest : StartsOutside Char.isDigit rest) :
    takeFraction? ('.' :: (trimZeros (paddedDigits 9 n.val) ++ rest)) = some (n, rest) := by
  have hpadded := isDigits_paddedDigits 9 n.val
  have hlength : (paddedDigits 9 n.val).length = 9 := length_paddedDigits (by decide) n.isLt
  obtain ⟨htrimmed, hle, hnumber⟩ := number_trimZeros hpadded
  rw [hlength] at hle hnumber
  rw [number_paddedDigits] at hnumber
  have hne : (trimZeros (paddedDigits 9 n.val)).isEmpty = false := by
    rw [List.isEmpty_eq_false_iff]
    intro hnil
    rw [hnil, number, numberOn, Nat.zero_mul] at hnumber
    exact hn hnumber.symm
  have hdigits : (isDigit 10) = Char.isDigit := funext isDigit_ten
  simp only [takeFraction?, hdigits, takeWhile_append htrimmed hrest,
    dropWhile_append htrimmed hrest, hne, List.take_of_length_le hle, hnumber]
  simp [below?]

theorem below?_of_fin {bound : Nat} (n : Fin bound) : below? bound n.val = some n := by
  simp [below?]

/-- A time of day is read up to the end of its digits. -/
theorem take?_text (t : Time) (hdigit : StartsOutside Char.isDigit rest)
    (hpoint : rest.head? ≠ some '.') : take? (t.text ++ rest) = some (t, rest) := by
  have htwo : ∀ n < 100, ∀ rest, takeDigits 2 0 (paddedDigits 2 n ++ rest) = some (n, rest) :=
    fun n hn => takeDigits_paddedDigits (by decide) hn
  have hhour := htwo t.hour.val (Nat.lt_trans t.hour.isLt (by decide))
  have hminute := htwo t.minute.val (Nat.lt_trans t.minute.isLt (by decide))
  have hsecond := htwo t.second.val (Nat.lt_trans t.second.isLt (by decide))
  by_cases hzero : t.nanosecond.val = 0
  · have hnone : takeFraction? rest = some (0, rest) := by
      unfold takeFraction?
      split
      next h => simp at hpoint
      next => rfl
    have hnanosecond : t.nanosecond = 0 := Fin.ext hzero
    simp [take?, text, hhour, hminute, hsecond, below?_of_fin, hzero, hnone]
    rw [← hnanosecond]
  · have hfraction := takeFraction?_text hzero hdigit
    simp [take?, text, hhour, hminute, hsecond, below?_of_fin, hzero, hfraction]

end Time

/-- An offset is read as it was written. -/
theorem Offset.take?_text (o : Offset) (rest : List Char) :
    Offset.take? (o.text ++ rest) = some (o, rest) := by
  cases o with
  | universal => simp [text, take?]
  | minutes n valid =>
    obtain ⟨m, hm⟩ : ∃ m, m = n.natAbs := ⟨_, rfl⟩
    have hhours : m / 60 < 24 := by omega
    have hminutes : m % 60 < 60 := by omega
    have hclock : takeClock? (paddedDigits 2 (m / 60) ++ ':' :: (paddedDigits 2 (m % 60) ++ rest)) =
        some (m, rest) := by
      have hfirst := takeDigits_paddedDigits (by decide)
        (Nat.lt_trans hhours (show 24 < tenTo 2 by decide))
      have hsecond := takeDigits_paddedDigits (by decide)
        (Nat.lt_trans hminutes (show 60 < tenTo 2 by decide))
      have hwhole : m / 60 * 60 + m % 60 = m := by omega
      simp [takeClock?, hfirst, hsecond, hhours, hminutes, hwhole]
    have hof : ∀ z : Int, z = n → of? z = some (.minutes n valid) := by
      rintro _ rfl
      exact dif_pos valid
    by_cases hneg : n < 0
    · simp [text, take?, ← hm, hneg, hclock, hof (-m) (by omega)]
    · simp [text, take?, ← hm, hneg, hclock, hof m (by omega)]

/-! ## Moments -/

theorem takeDigits_eq_none {c : Char} (h : IsDigits ds) (hc : c.isDigit = false) {count : Nat}
    (hcount : ds.length < count) (n : Nat) (rest : List Char) :
    takeDigits count n (ds ++ c :: rest) = none := by
  have hvalue : digitValue? 10 c = none := by
    rw [← isDigit_ten, isDigit] at hc
    simpa using hc
  induction ds generalizing count n with
  | nil =>
    obtain ⟨count, rfl⟩ : ∃ k, count = k + 1 := ⟨count - 1, by simp at hcount; omega⟩
    simp [takeDigits, hvalue]
  | cons d ds ih =>
    obtain ⟨hd, hds⟩ := List.forall_mem_cons.1 h
    obtain ⟨count, rfl⟩ : ∃ k, count = k + 1 := ⟨count - 1, by simp at hcount; omega⟩
    simp only [List.cons_append, takeDigits, digitValue?_ten hd]
    exact ih hds (by simpa using hcount) _

/-- A time of day is no date. -/
theorem Date.take?_time (t : Time) : Date.take? t.text = none := by
  have hhour : takeDigits 4 0 t.text = none := by
    simp only [Time.text, List.append_assoc, List.cons_append]
    refine takeDigits_eq_none (c := ':') (isDigits_paddedDigits 2 t.hour.val) (by decide) ?_ 0 _
    rw [length_paddedDigits (by decide) (Nat.lt_trans t.hour.isLt (by decide))]
    decide
  simp [take?, hhour]

/-- What follows a time of day before an offset. -/
theorem Offset.head?_text (o : Offset) :
    StartsOutside Char.isDigit o.text ∧ o.text.head? ≠ some '.' ∧ o.text ≠ [] := by
  cases o with
  | universal => exact ⟨by rintro _ ⟨⟩; decide, by decide, by decide⟩
  | minutes n valid =>
    by_cases hneg : n < 0 <;> simp only [text, hneg, if_true, if_false]
    · exact ⟨by rintro _ ⟨⟩; decide, by simp, by simp⟩
    · exact ⟨by rintro _ ⟨⟩; decide, by simp, by simp⟩

/-- **A moment is read as it was written.** -/
theorem Moment.read?_text (m : Moment) : Moment.read? m.text = some m := by
  have htime : ∀ t : Time, Time.take? t.text = some (t, []) := fun t => by
    simpa using t.take?_text (startsOutside_nil _) nofun
  cases m with
  | date d =>
    have hdate := d.take?_text []
    rw [List.append_nil] at hdate
    simp [text, read?, hdate, afterDate?]
  | time t => simp [text, read?, Date.take?_time, htime]
  | dateTime d t => simp [text, read?, Date.take?_text, afterDate?, htime]
  | offsetDateTime d t o =>
    obtain ⟨hdigit, hpoint, hne⟩ := o.head?_text
    have htake := t.take?_text hdigit hpoint
    have hoffset := o.take?_text []
    obtain ⟨c, cs, hcs⟩ := List.exists_cons_of_ne_nil hne
    rw [List.append_nil] at hoffset
    rw [hcs] at htake hoffset
    simp [text, read?, Date.take?_text, afterDate?, hcs, htake, hoffset]

/-! ## Words that are no moments -/

theorem of_takeDigits_eq_some {count n m : Nat} {s : List Char}
    (h : takeDigits count n s = some (m, rest)) :
    ∃ ds, s = ds ++ rest ∧ IsDigits ds ∧ ds.length = count := by
  induction count generalizing n s with
  | zero =>
    cases h
    exact ⟨[], rfl, nofun, rfl⟩
  | succ count ih =>
    cases s with
    | nil => cases h
    | cons c s =>
      rw [takeDigits] at h
      cases hc : digitValue? 10 c with
      | none => simp [hc] at h
      | some d =>
        rw [hc] at h
        obtain ⟨ds, rfl, hds, rfl⟩ := ih h
        have hdigit : c.isDigit = true := by rw [← isDigit_ten, isDigit, hc, Option.isSome_some]
        exact ⟨c :: ds, rfl, List.forall_mem_cons.2 ⟨hdigit, hds⟩, rfl⟩

theorem mem_of_takeChar_eq_some {c : Char} {s : List Char} (h : takeChar c s = some rest) : c ∈ s := by
  cases s with
  | nil => cases h
  | cons d s =>
    by_cases hc : c = d
    · exact hc ▸ List.mem_cons_self
    · simp [takeChar, hc] at h

/-- A date starts with a digit and has a dash. -/
theorem Date.take?_eq_none {s : List Char} (h : StartsOutside Char.isDigit s ∨ '-' ∉ s) :
    Date.take? s = none := by
  cases hyear : takeDigits 4 0 s with
  | none => simp [take?, hyear]
  | some r =>
    obtain ⟨year, rest⟩ := r
    obtain ⟨ds, rfl, hds, hlength⟩ := of_takeDigits_eq_some hyear
    cases hdash : takeChar '-' rest with
    | none => simp [take?, hyear, hdash]
    | some more =>
      rcases h with h | h
      · cases ds with
        | nil => cases hlength
        | cons c ds =>
          have hc := h c rfl
          rw [hds c List.mem_cons_self] at hc
          cases hc
      · exact absurd (List.mem_append_right ds (mem_of_takeChar_eq_some hdash)) h

/-- A time of day has a colon. -/
theorem Time.take?_eq_none {s : List Char} (h : ':' ∉ s) : Time.take? s = none := by
  cases hhour : takeDigits 2 0 s with
  | none => simp [take?, hhour]
  | some r =>
    obtain ⟨hour, rest⟩ := r
    obtain ⟨ds, rfl, -, -⟩ := of_takeDigits_eq_some hhour
    cases hcolon : takeChar ':' rest with
    | none => simp [take?, hhour, hcolon]
    | some more =>
      exact absurd (List.mem_append_right ds (mem_of_takeChar_eq_some hcolon)) h

theorem Moment.read?_eq_none {s : List Char} (hcolon : ':' ∉ s)
    (hdate : StartsOutside Char.isDigit s ∨ '-' ∉ s) : Moment.read? s = none := by
  simp [read?, Date.take?_eq_none hdate, Time.take?_eq_none hcolon]

end Downstream.Toml
