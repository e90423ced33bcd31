import Downstream.Proofs.Pattern.Digits

/-!
# The version of Go in a module file

The pattern for the version of Go finds the word `go 1.` with a version behind it: a minor version
below 20, and a patch version if there is one, up to the end of a word. `goVersion` is the scanner
that hits these places, described by runs of digits.

* The pattern finds what the scanner hits (`finds_goVersion`).
* `go 1.20` itself is no hit, and where all hits were replaced by it there is none
  (`hit_goVersion_of_suffix_replace`).
-/

namespace Downstream.OpenShift

open Pattern
open Unicode.Property (isWord)
open Utf8 (starts run IsAscii)

/-! ## The scanner -/

/-- The number of bytes of a minor version: one digit, or two of which the first is 1. -/
def minorEnd (text : Bytes) : Option Nat :=
  if run isDecimal text = 1 ∨ (run isDecimal text = 2 ∧ text.head? = some 0x31) then
    some (run isDecimal text)
  else none

/-- The number of bytes of a patch version, with the dot before it. -/
def patchEnd (text : Bytes) : Option Nat :=
  if text.head? = some 0x2E ∧ starts isDecimal text.tail = true ∧
      starts isWord (text.tail.drop (run isDecimal text.tail)) = false then
    some (1 + run isDecimal text.tail)
  else none

/-- The number of bytes of what follows a minor version: a patch version, or nothing if the word
ends there. -/
def restEnd (text : Bytes) : Option Nat :=
  (patchEnd text).or (if starts isWord text = true then none else some 0)

/-- The number of bytes of a version behind its major version. -/
def versionEnd (text : Bytes) : Option Nat :=
  (minorEnd text).bind fun n => (restEnd (text.drop n)).map (n + ·)

/-- What stands before a minor version: `go 1.`. -/
def goWord : Bytes :=
  Utf8.ofString "go 1."

theorem minorEnd_le {text : Bytes} {n : Nat} (h : minorEnd text = some n) : n ≤ text.length := by
  unfold minorEnd at h
  split at h
  · cases h
    exact Utf8.run_le_length text
  · cases h

theorem patchEnd_le {text : Bytes} {n : Nat} (h : patchEnd text = some n) : n ≤ text.length := by
  unfold patchEnd at h
  split at h
  next hc =>
    cases text with
    | nil => cases hc.1
    | cons b patch =>
      have hrun := Utf8.run_le_length (p := isDecimal) patch
      cases h
      rw [List.tail_cons, List.length_cons]
      omega
  · cases h

theorem restEnd_le {text : Bytes} {n : Nat} (h : restEnd text = some n) : n ≤ text.length := by
  rcases Option.or_eq_some_iff.1 h with h | ⟨-, h⟩
  · exact patchEnd_le h
  · split at h
    · cases h
    · cases h
      exact Nat.zero_le _

theorem versionEnd_le {text : Bytes} {n : Nat} (h : versionEnd text = some n) :
    n ≤ text.length := by
  obtain ⟨k, hk, hrest⟩ := Option.bind_eq_some_iff.1 h
  obtain ⟨m, hm, rfl⟩ := Option.map_eq_some_iff.1 hrest
  have hk' := minorEnd_le hk
  have hm' := restEnd_le hm
  rw [List.length_drop] at hm'
  omega

/-- Hits the word for Go with a version below 1.20 behind it. -/
def goVersion : Scanner where
  hit text :=
    if goWord <+: text then (versionEnd (text.drop goWord.length)).map (goWord.length + ·) else none
  pos := fun {text n} h => by
    split at h
    · obtain ⟨m, -, rfl⟩ := Option.map_eq_some_iff.1 h
      have hlen : 0 < goWord.length := by decide
      omega
    · cases h
  le := fun {text n} h => by
    split at h
    next hword =>
      obtain ⟨m, hm, rfl⟩ := Option.map_eq_some_iff.1 h
      have hlen := hword.length_le
      have hm' := versionEnd_le hm
      rw [List.length_drop] at hm'
      omega
    · cases h

theorem hit_goVersion {text : Bytes} {n : Nat} :
    goVersion.hit text = some n ↔
      goWord <+: text ∧
        (versionEnd (text.drop goWord.length)).map (goWord.length + ·) = some n := by
  simp only [goVersion]
  by_cases h : goWord <+: text
  · rw [if_pos h]
    exact ⟨fun hn => ⟨h, hn⟩, fun hn => hn.2⟩
  · rw [if_neg h]
    exact ⟨fun hn => (by cases hn), fun hn => absurd hn.1 h⟩

theorem opens_goVersion : goVersion.Opens goWord := fun h => (hit_goVersion.1 h).1

/-! ## The pattern -/

/-- The pattern of a patch version, with the dot before it. -/
def patchExpr : Expr :=
  .afterWord [0x2E] (.seq .empty (.plus true (.scalar digits)))

/-- The pattern of what follows a minor version. -/
def restExpr : Expr :=
  .seq (.seq .empty (.alt patchExpr .empty)) (.look (.word true .boundary))

/-- The pattern of a version, behind its major version. -/
def versionExpr : Expr :=
  .seq (.seq .empty (.alt (.octet (.single 0x31)) .empty)) (.seq (.scalar digits) restExpr)

/-- The pattern of a version of Go. -/
def goExpr : Expr :=
  .afterWord goWord versionExpr

theorem stops_boundary {c : Cursor} (h : c.AfterDigit) :
    (Expr.look (.word true .boundary)).stops c =
      if starts isWord c.after = true then [] else [c] := by
  rw [Expr.stops, h.holds_boundary]
  cases starts isWord c.after <;> rfl

/-- Behind digits, a word can only end where the digits do. -/
theorem stops_boundary_of_starts_digit (c : Cursor) (h : c.AfterDigit)
    (hs : starts isDecimal c.after = true) : (Expr.look (.word true .boundary)).stops c = [] := by
  rw [stops_boundary h, if_pos (starts_word_of_starts_digit hs)]

theorem head?_stops_patchExpr (c : Cursor) :
    ((patchExpr.stops c).flatMap (Expr.look (.word true .boundary)).stops).head? =
      (patchEnd c.after).map c.skip := by
  rw [patchExpr, Expr.stops_afterWord, patchEnd]
  by_cases hdot : c.after.head? = some 0x2E
  · obtain ⟨rest, hrest⟩ := List.head?_eq_some_iff.1 hdot
    have htail : c.after.tail = (c.skip 1).after := by
      rw [Cursor.skip_after, List.drop_one]
    rw [if_pos ⟨rest, hrest.symm⟩, Expr.stops_seq_empty, List.length_singleton,
      Expr.flatMap_stops_digits stops_boundary_of_starts_digit, htail]
    by_cases hs : starts isDecimal (c.skip 1).after = true
    · rw [if_pos hs, stops_boundary (Cursor.afterDigit_skip_run hs), Cursor.skip_after (run _ _)]
      by_cases hw : starts isWord ((c.skip 1).after.drop (run isDecimal (c.skip 1).after)) = true
      · rw [if_pos hw, if_neg fun hc => by rw [hw] at hc; cases hc.2.2]
        rfl
      · rw [if_neg hw, if_pos ⟨hdot, hs, eq_false_of_ne_true hw⟩, Cursor.skip_skip]
        rfl
    · rw [if_neg hs, if_neg fun hc => hs hc.2.1]
      rfl
  · have hword : ¬[0x2E] <+: c.after := fun ⟨rest, hrest⟩ => hdot (by rw [← hrest]; rfl)
    rw [if_neg hword, if_neg fun hc => hdot hc.1]
    rfl

theorem head?_stops_restExpr {c : Cursor} (h : c.AfterDigit) :
    (restExpr.stops c).head? = (restEnd c.after).map c.skip := by
  rw [restExpr, Expr.stops, Expr.stops_seq_empty, Expr.stops, List.flatMap_append,
    List.head?_append, head?_stops_patchExpr, Expr.stops, List.flatMap_cons, List.flatMap_nil,
    List.append_nil, stops_boundary h, restEnd]
  cases patchEnd c.after <;> cases starts isWord c.after <;> rfl

theorem restEnd_of_starts_digit {text : Bytes} (h : starts isDecimal text = true) :
    restEnd text = none := by
  obtain ⟨b, rest, rfl, hb⟩ := exists_cons_of_starts_digit h
  have hdot : ¬(b :: rest).head? = some 0x2E := fun hd => by
    obtain rfl : b = 0x2E := by simpa using hd
    exact absurd hb (by decide)
  rw [restEnd, patchEnd, if_neg fun hc => hdot hc.1, if_pos (starts_word_of_starts_digit h)]
  rfl

/-- A digit, and then the rest of the version, is found where there is just one digit. -/
theorem head?_stops_digit_restExpr (c : Cursor) :
    ((Expr.seq (.scalar digits) restExpr).stops c).head? =
      if run isDecimal c.after = 1 then (restEnd (c.after.drop 1)).map (c.skip 1).skip
      else none := by
  by_cases hs : starts isDecimal c.after = true
  · obtain ⟨b, rest, hcons, hb⟩ := exists_cons_of_starts_digit hs
    rw [Expr.stops, Expr.stops_digit_of_cons hcons hb, List.flatMap_cons, List.flatMap_nil,
      List.append_nil, head?_stops_restExpr (Cursor.afterDigit_skip hcons hb), Cursor.skip_after,
      hcons, run_digit_cons hb, List.drop_succ_cons, List.drop_zero]
    by_cases hrest : starts isDecimal rest = true
    · have hne : run isDecimal rest ≠ 0 := fun h0 => by
        rw [Utf8.run_eq_zero_iff.1 h0] at hrest
        cases hrest
      rw [restEnd_of_starts_digit hrest, if_neg (by omega)]
      rfl
    · rw [Utf8.run_of_not_starts (eq_false_of_ne_true hrest), if_pos rfl]
  · have hs := eq_false_of_ne_true hs
    rw [Expr.stops, Expr.stops_scalar_of_not_starts hs, Utf8.run_of_not_starts hs,
      if_neg Nat.zero_ne_one]
    rfl

theorem map_skip_skip (o : Option Nat) (n : Nat) (c : Cursor) :
    o.map (c.skip n).skip = (o.map (n + ·)).map c.skip := by
  cases o with
  | none => rfl
  | some m => exact congrArg some (Cursor.skip_skip n m c)

theorem head?_stops_versionExpr (c : Cursor) :
    (versionExpr.stops c).head? = (versionEnd c.after).map c.skip := by
  rw [versionExpr, Expr.stops, Expr.stops_seq_empty, Expr.stops, List.flatMap_append,
    List.head?_append, Expr.stops, List.flatMap_cons, List.flatMap_nil, List.append_nil,
    head?_stops_digit_restExpr, show (0x31 : Nat) = (0x31 : UInt8).toNat from rfl,
    Expr.stops_octet_single, versionEnd, minorEnd]
  by_cases hone : c.after.head? = some 0x31
  · obtain ⟨rest, hrest⟩ := List.head?_eq_some_iff.1 hone
    have hrun : run isDecimal c.after = 1 + run isDecimal (c.skip 1).after := by
      rw [Cursor.skip_after, hrest]
      exact run_digit_cons (by decide) rest
    rw [if_pos hone, List.flatMap_cons, List.flatMap_nil, List.append_nil,
      head?_stops_digit_restExpr]
    by_cases htwo : run isDecimal (c.skip 1).after = 1
    · have hrun' : run isDecimal c.after = 2 := by omega
      rw [if_pos htwo, if_neg (by omega), Option.or_none, if_pos (Or.inr ⟨hrun', hone⟩), hrun',
        Option.bind_some, ← map_skip_skip, Cursor.skip_skip, Cursor.skip_after, List.drop_drop]
    · rw [if_neg htwo, Option.none_or]
      by_cases hd : run isDecimal c.after = 1
      · rw [if_pos hd, if_pos (Or.inl hd), hd, Option.bind_some, ← map_skip_skip]
      · rw [if_neg hd, if_neg (by omega)]
        rfl
  · rw [if_neg hone, List.flatMap_nil, List.head?_nil, Option.none_or]
    by_cases hd : run isDecimal c.after = 1
    · rw [if_pos hd, if_pos (Or.inl hd), hd, Option.bind_some, ← map_skip_skip]
    · rw [if_neg hd, if_neg fun hc => hc.elim hd fun h => hone h.2]
      rfl

/-- **The pattern of a version of Go finds what the scanner hits.** -/
theorem finds_goVersion : goVersion.Finds goExpr := by
  intro c
  rw [Expr.end?, goExpr, Expr.stops_afterWord]
  simp only [goVersion]
  by_cases hw : goWord <+: c.after
  · rw [if_pos hw, if_pos hw, head?_stops_versionExpr, Cursor.skip_after]
    cases versionEnd (c.after.drop goWord.length) with
    | none => rfl
    | some n => exact congrArg some (Nat.add_assoc _ _ _)
  · rw [if_neg hw, if_neg hw]
    rfl

/-! ## Versions before different texts -/

/-- Two texts that a version before them does not go on in, and that begin alike for it. -/
structure Alike (u v : Bytes) : Prop where
  fresh : Utf8.Fresh u ∧ Utf8.Fresh v
  digit : starts isDecimal u = false ∧ starts isDecimal v = false
  dot : u.head? ≠ some 0x2E ∧ v.head? ≠ some 0x2E
  word : starts isWord u = starts isWord v

namespace Alike

variable {u v : Bytes}

theorem starts_word_append (h : Alike u v) (w : Bytes) :
    starts isWord (w ++ u) = starts isWord (w ++ v) :=
  Utf8.starts_append h.fresh.1 h.fresh.2 h.word w

theorem starts_digit_append (h : Alike u v) (w : Bytes) :
    starts isDecimal (w ++ u) = starts isDecimal (w ++ v) :=
  Utf8.starts_append h.fresh.1 h.fresh.2 (h.digit.1.trans h.digit.2.symm) w

theorem run_append_left (h : Alike u v) (w : Bytes) : run isDecimal (w ++ u) = run isDecimal w :=
  Utf8.run_append_of_not_starts h.fresh.1 h.digit.1 w

theorem run_append_right (h : Alike u v) (w : Bytes) : run isDecimal (w ++ v) = run isDecimal w :=
  Utf8.run_append_of_not_starts h.fresh.2 h.digit.2 w

theorem minorEnd_append (h : Alike u v) (w : Bytes) : minorEnd (w ++ u) = minorEnd (w ++ v) := by
  unfold minorEnd
  rw [h.run_append_left, h.run_append_right]
  cases w with
  | nil => rfl
  | cons b w => rfl

theorem patchEnd_append (h : Alike u v) (w : Bytes) : patchEnd (w ++ u) = patchEnd (w ++ v) := by
  unfold patchEnd
  cases w with
  | nil =>
    rw [List.nil_append, List.nil_append, if_neg fun hc => h.dot.1 hc.1,
      if_neg fun hc => h.dot.2 hc.1]
  | cons b w =>
    have hrun := Utf8.run_le_length (p := isDecimal) w
    simp only [List.cons_append, List.head?_cons, List.tail_cons, h.run_append_left,
      h.run_append_right, h.starts_digit_append, List.drop_append_of_le_length hrun,
      h.starts_word_append]

theorem minorEnd_le (h : Alike u v) {w : Bytes} {n : Nat} (hn : minorEnd (w ++ u) = some n) :
    n ≤ w.length := by
  unfold minorEnd at hn
  rw [h.run_append_left] at hn
  split at hn
  · cases hn
    exact Utf8.run_le_length w
  · cases hn

theorem patchEnd_le (h : Alike u v) {w : Bytes} {n : Nat} (hn : patchEnd (w ++ u) = some n) :
    n ≤ w.length := by
  unfold patchEnd at hn
  split at hn
  next hc =>
    cases w with
    | nil => exact absurd hc.1 h.dot.1
    | cons b w =>
      have hrun := Utf8.run_le_length (p := isDecimal) w
      rw [List.cons_append, List.tail_cons, h.run_append_left] at hn
      cases hn
      rw [List.length_cons]
      omega
  · cases hn

theorem versionEnd_append (h : Alike u v) (w : Bytes) :
    versionEnd (w ++ u) = versionEnd (w ++ v) := by
  rw [versionEnd, versionEnd, ← h.minorEnd_append]
  cases hn : minorEnd (w ++ u) with
  | none => rfl
  | some n =>
    have hle := h.minorEnd_le hn
    rw [Option.bind_some, Option.bind_some, List.drop_append_of_le_length hle,
      List.drop_append_of_le_length hle, restEnd, restEnd, h.patchEnd_append, h.starts_word_append]

/-- A version before such a text ends where the text starts, or earlier. -/
theorem versionEnd_le (h : Alike u v) {w : Bytes} {n : Nat} (hn : versionEnd (w ++ u) = some n) :
    n ≤ w.length := by
  obtain ⟨k, hk, hrest⟩ := Option.bind_eq_some_iff.1 hn
  obtain ⟨m, hm, rfl⟩ := Option.map_eq_some_iff.1 hrest
  have hle := h.minorEnd_le hk
  rw [List.drop_append_of_le_length hle] at hm
  rcases Option.or_eq_some_iff.1 hm with hm | ⟨-, hm⟩
  · have hle' := h.patchEnd_le hm
    rw [List.length_drop] at hle'
    omega
  · split at hm
    · cases hm
    · cases hm
      exact hle

end Alike

/-! ## After all versions were replaced -/

/-- The version of Go that is put in place of older ones. -/
def goPinned : Bytes :=
  Utf8.ofString "go 1.20"

theorem alike_of_goWord {u v : Bytes} (hu : goWord <+: u) (hv : goWord <+: v) : Alike u v := by
  obtain ⟨u, rfl⟩ := hu
  obtain ⟨v, rfl⟩ := hv
  have hg : ∀ w, Scanner.StartsAscii isWord (goWord ++ w) := fun w =>
    Scanner.StartsAscii.append (by decide +kernel) w
  have hdigit : ∀ w, starts isDecimal (goWord ++ w) = false := fun w => by
    rw [← Bool.not_eq_true]
    intro hs
    obtain ⟨b, rest, hb, hascii⟩ := exists_cons_of_starts_digit hs
    obtain rfl : 0x67 = b := (List.cons.inj hb).1
    exact absurd hascii (by decide)
  have hdot : ∀ w : Bytes, (goWord ++ w).head? ≠ some 0x2E := fun w hw => by
    cases hw
  exact ⟨⟨(hg u).fresh, (hg v).fresh⟩, ⟨hdigit u, hdigit v⟩, ⟨hdot u, hdot v⟩, by
    rw [(hg u).starts, (hg v).starts]⟩

/-- The version that is put in place of others is no hit itself. -/
theorem hit_goPinned (v : Bytes) : goVersion.hit (goPinned ++ v) = none := by
  have hdrop : (goPinned ++ v).drop goWord.length = Utf8.ofString "20" ++ v := rfl
  have hrun : run isDecimal (Utf8.ofString "20" ++ v) = 2 + run isDecimal v :=
    Utf8.run_append (by decide +kernel) v
  have hhead : (Utf8.ofString "20" ++ v).head? ≠ some 0x31 := fun h => by cases h
  have hnone : versionEnd (Utf8.ofString "20" ++ v) = none := by
    rw [versionEnd, minorEnd, hrun, if_neg fun hc => hc.elim (fun h => by omega) fun h => hhead h.2]
    rfl
  cases hn : goVersion.hit (goPinned ++ v) with
  | none => rfl
  | some n =>
    have hver := (hit_goVersion.1 hn).2
    rw [hdrop, hnone] at hver
    cases hver

/-- Replacing versions does not change whether there is one at the front. -/
theorem versionEnd_replace (text : Bytes) :
    versionEnd (goVersion.replace goPinned text) = versionEnd text := by
  obtain ⟨w, v, rfl, hrep, hv⟩ := Scanner.exists_first_hit (s := goVersion) (r := goPinned) text
  rcases hv with rfl | ⟨n, hn⟩
  · rw [hrep, Scanner.replace_nil]
  · rw [hrep, Scanner.replace_of_hit hn]
    have hpinned : goWord <+: goPinned ++ goVersion.replace goPinned (v.drop n) :=
      List.IsPrefix.trans ⟨Utf8.ofString "20", rfl⟩ (List.prefix_append goPinned _)
    exact (alike_of_goWord hpinned (opens_goVersion hn)).versionEnd_append w

/-- **Where all versions of Go were replaced, there is none left to replace.** -/
theorem hit_goVersion_of_suffix_replace {text u : Bytes}
    (hu : u <:+ goVersion.replace goPinned text) : goVersion.hit u = none := by
  rw [← Option.not_isSome_iff_eq_none, Option.isSome_iff_exists]
  rintro ⟨n, hn⟩
  obtain ⟨hword, hver⟩ := hit_goVersion.1 hn
  rcases Scanner.tail_replace hu with ⟨t, -, rfl⟩ | ⟨t, m, ρ, -, -, hρ, hne, hρr, rfl⟩
  · induction t using goVersion.induction with
    | nil =>
      rw [Scanner.replace_nil, Scanner.hit_nil] at hn
      cases hn
    | kept b rest hk _ =>
      -- The word was there before, and so was a version behind it.
      have hne : goWord ≠ [] := by decide
      have hmiss : Misses goPinned goWord.tail := by decide
      obtain ⟨hpre, hdrop⟩ := Scanner.prefix_of_prefix_replace_cons hne hmiss hk hword
      rw [hdrop, versionEnd_replace] at hver
      have hsome := hit_goVersion.2 ⟨hpre, hver⟩
      rw [hk] at hsome
      cases hsome
    | made t m hm _ =>
      rw [Scanner.replace_of_hit hm, hit_goPinned] at hn
      cases hn
  · have hρt : ρ <:+ goPinned.tail := (List.suffix_cons_iff.1 hρ).resolve_left hρr
    have hmiss : Misses goWord goPinned.tail := by decide
    exact hmiss.not_meets hρt hne (Meets.of_isPrefix (List.prefix_append ρ _) hword)

end Downstream.OpenShift
