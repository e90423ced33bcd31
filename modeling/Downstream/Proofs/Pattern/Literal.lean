import Downstream.Proofs.Pattern.Tag

/-!
# Words and tags as patterns

`Expr.afterWord` is a pattern behind a literal word, and a tag is a greedy repetition of one
character. Such a pattern finds what the scanner `Scanner.tagged` hits (`Scanner.finds_tagged`).
-/

namespace Downstream.Pattern

open Unicode (CharSet)

namespace Expr

theorem stops_seq_empty (e : Expr) (c : Cursor) : (seq empty e).stops c = e.stops c := by
  rw [stops, stops, List.flatMap_cons, List.flatMap_nil, List.append_nil]

/-! ## Words -/

/-- The pattern `e` behind a word. -/
def afterWord (word : Bytes) (e : Expr) : Expr :=
  word.foldr (fun b rest => seq (octet (.single b.toNat)) rest) e

theorem has_single {a c : Nat} : (CharSet.single a).has c = true ↔ a = c := by
  simp only [CharSet.single, CharSet.has_ranges, Unicode.Ranges.has]
  by_cases h : c < a
  · rw [if_pos h]
    exact ⟨fun hf => (by cases hf), fun he => absurd he (by omega)⟩
  · rw [if_neg h]
    by_cases h' : c ≤ a
    · rw [if_pos h']
      exact ⟨fun _ => by omega, fun _ => rfl⟩
    · rw [if_neg h']
      exact ⟨fun hf => (by cases hf), fun he => absurd he (by omega)⟩

theorem stops_octet_single (b : UInt8) (c : Cursor) :
    (octet (.single b.toNat)).stops c = if c.after.head? = some b then [c.skip 1] else [] := by
  unfold stops
  cases h : c.after with
  | nil => rfl
  | cons a rest =>
    by_cases hb : b = a
    · subst hb
      simp [has_single.2 rfl]
    · have hn : ¬(CharSet.single b.toNat).has a.toNat = true := fun hs =>
        hb (UInt8.toNat_inj.1 (has_single.1 hs))
      simp only [if_neg hn, List.head?_cons, Option.some.injEq]
      rw [if_neg fun he => hb he.symm]

theorem stops_afterWord (word : Bytes) (e : Expr) (c : Cursor) :
    (afterWord word e).stops c = if word <+: c.after then e.stops (c.skip word.length) else [] := by
  induction word generalizing c with
  | nil => rw [if_pos List.nil_prefix]; rfl
  | cons b word ih =>
    rw [afterWord, List.foldr_cons, ← afterWord, stops, stops_octet_single]
    cases h : c.after with
    | nil => simp
    | cons a rest =>
      by_cases hb : a = b
      · subst hb
        simp only [List.head?_cons, if_true, List.flatMap_cons, List.flatMap_nil, List.append_nil]
        rw [ih, Cursor.skip_after, h, List.drop_succ_cons, List.drop_zero, Cursor.skip_skip,
          List.length_cons, Nat.add_comm 1]
        simp only [List.cons_prefix_cons, true_and]
      · rw [List.head?_cons, if_neg (by simpa using hb), List.flatMap_nil, if_neg fun hp =>
          hb (List.cons_prefix_cons.1 hp).1.symm]

/-! ## Tags -/

/-- The characters of a set. -/
def member (set : CharSet) (c : Char) : Bool :=
  set.has c.toNat

variable {set : CharSet}

theorem stops_scalar_of_starts {c : Cursor} {char : Char} {width : Nat}
    (hd : Utf8.decode? c.after = some (char, width)) (hset : member set char = true) :
    (scalar set).stops c = [c.skip width] := by
  rw [member] at hset
  simp only [stops, hd, hset, if_true]

theorem stops_scalar_of_not_starts {c : Cursor} (h : Utf8.starts (member set) c.after = false) :
    (scalar set).stops c = [] := by
  unfold stops
  cases hd : Utf8.decode? c.after with
  | none => rfl
  | some q =>
    rw [Utf8.starts, hd] at h
    exact if_neg (by rw [← Bool.not_eq_true] at h; exact h)

/-- Preferring more, one takes all there is of a run. -/
theorem head?_rounds_scalar (c : Cursor) :
    (rounds true (scalar set).stops c.after.length c).head? =
      some (c.skip (Utf8.run (member set) c.after)) := by
  induction htext : c.after using Utf8.run_induction (p := member set) generalizing c with
  | stop text hs =>
    subst htext
    rw [rounds_length fun _ _ h => stops_reaches _ h, stops_scalar_of_not_starts hs,
      Utf8.run_of_not_starts hs]
    rfl
  | step text char width hd hp ih =>
    subst htext
    have hpos := (Utf8.decode?_width hd).1
    have hne : decide (c.skip width ≠ c) = true := decide_eq_true (Cursor.skip_ne hpos c)
    rw [rounds_length fun _ _ h => stops_reaches _ h, stops_scalar_of_starts hd hp,
      List.filter_cons_of_pos (by exact hne), List.filter_nil]
    simp only [if_true, List.flatMap_cons, List.flatMap_nil, List.append_nil, List.head?_append]
    change (rounds true (scalar set).stops (c.after.drop width).length
      (c.skip width)).head?.or _ = _
    rw [ih (c.skip width) (Cursor.skip_after width c), Utf8.run_of_starts hd hp,
      Cursor.skip_skip, Option.some_or]

theorem head?_stops_plus_scalar (c : Cursor) :
    ((plus true (scalar set)).stops c).head? =
      if Utf8.starts (member set) c.after = true then
        some (c.skip (Utf8.run (member set) c.after))
      else none := by
  by_cases hs : Utf8.starts (member set) c.after = true
  · obtain ⟨char, width, hd, hp⟩ := Utf8.exists_of_starts hs
    have hpos := (Utf8.decode?_width hd).1
    rw [if_pos hs, stops, stops_scalar_of_starts hd hp, List.flatMap_cons, List.flatMap_nil,
      List.append_nil, if_neg (Cursor.skip_ne hpos c), head?_rounds_scalar, Cursor.skip_after,
      Cursor.skip_skip, ← Utf8.run_of_starts hd hp]
  · rw [if_neg hs, stops, stops_scalar_of_not_starts (by simpa using hs)]
    rfl

/-- A pattern for a word with a tag of one or more characters of a set. -/
def wordWithTag (word : Bytes) (set : CharSet) : Expr :=
  afterWord word (seq empty (plus true (scalar set)))

end Expr

/-- **A word with a tag is found where the scanner hits it.** -/
theorem Scanner.finds_tagged (word : Bytes) (set : CharSet) :
    (tagged (Expr.member set) word).Finds (Expr.wordWithTag word set) := by
  intro c
  rw [Expr.end?, Expr.wordWithTag, Expr.stops_afterWord]
  by_cases hw : word <+: c.after
  · rw [if_pos hw, Expr.stops_seq_empty, Expr.head?_stops_plus_scalar, Cursor.skip_after]
    by_cases hs : Utf8.starts (Expr.member set) (c.after.drop word.length) = true
    · rw [if_pos hs, hit_tagged.2 ⟨hw, hs, rfl⟩, Cursor.skip_skip]
      rfl
    · rw [if_neg hs, hit_tagged_eq_none.2 fun h => hs h.2]
      rfl
  · rw [if_neg hw, hit_tagged_eq_none.2 fun h => hw h.1]
    rfl

end Downstream.Pattern
