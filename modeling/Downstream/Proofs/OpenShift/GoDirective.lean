import Downstream.Proofs.OpenShift.Rules
import Downstream.Proofs.Pattern.Leftmost
import Downstream.Proofs.Text.Digit
import Downstream.Proofs.Text.Encode

/-!
# What the rule for the version of Go finds

The rule for the version of Go finds the word `go 1.` with a minor version below 20 behind it, and
takes the patch version along where one stands there as a whole. `GoVersionAt` says so in terms of
the characters that stand in a content, which may be any bytes.

* The scanner hits these places (`hit_goVersion_iff_goVersionAt`), so the rule replaces those of
  them that one comes upon from left to right.
* What stands before the word `go 1.` is replaced independently of what follows the word
  (`exists_replace_append_goWord`). So a directive keeps a minor version from 20 on, and loses one
  below 20, wherever it stands (`matches_goRule_iff_leftmost`).
-/

namespace Downstream.OpenShift

open Pattern
open Unicode.Property (isWord)
open Utf8 (starts run ofChars encode Ends IsRun)

variable {text : Bytes} {n : Nat}

/-! ## Digits -/

theorem isDecimal_eq : isDecimal = Char.isDigit :=
  funext fun _ => Bool.eq_iff_iff.2 (isDecimal_iff.trans Char.isDigit_iff_toNat.symm)

theorem toNat_le_of_isDigit {c : Char} (h : c.isDigit = true) : c.toNat ≤ 0x39 :=
  (Char.isDigit_iff_toNat.1 h).2

theorem encode_of_isDigit {c : Char} (h : c.isDigit = true) : encode c = [.ofNat c.toNat] :=
  Utf8.encode_one (Nat.le_trans (toNat_le_of_isDigit h) (by decide))

theorem length_ofChars_of_isDigits {ds : List Char} (h : IsDigits ds) :
    (ofChars ds).length = ds.length := by
  induction ds with
  | nil => rfl
  | cons c ds ih =>
    obtain ⟨hc, hds⟩ := List.forall_mem_cons.1 h
    rw [ofChars, List.flatMap_cons, ← ofChars, encode_of_isDigit hc, List.length_append, ih hds,
      List.length_singleton, List.length_cons, Nat.add_comm]

theorem head?_ofChars_append {ds : List Char} (h : IsDigits ds) (hne : ds ≠ []) (rest : Bytes) :
    (ofChars ds ++ rest).head? = some 0x31 ↔ ds.head? = some '1' := by
  obtain ⟨c, ds, rfl⟩ := List.exists_cons_of_ne_nil hne
  have hc := h c List.mem_cons_self
  have hle := toNat_le_of_isDigit hc
  have hone : UInt8.ofNat c.toNat = 0x31 ↔ c = '1' := by
    rw [← UInt8.toNat_inj, ← Char.toNat_inj, Utf8.toNat_ofNat_of_lt (by omega)]
    rfl
  rw [ofChars, List.flatMap_cons, encode_of_isDigit hc, List.singleton_append, List.cons_append,
    List.head?_cons, List.head?_cons, Option.some.injEq, Option.some.injEq, hone]

theorem starts_digit_dot (rest : Bytes) : starts Char.isDigit (0x2E :: rest) = false := by
  rw [starts, Utf8.decode?_ascii (by decide)]
  rfl

theorem ends_digit_of_ends_word (h : Ends isWord text) : Ends Char.isDigit text :=
  fun c hc => h c (isWord_of_isDecimal (isDecimal_eq ▸ hc))

/-! ## What is found where -/

/-- At the front of a text stands a patch version with the dot before it, `n` bytes: all the digits
that there are, and no character of a word behind them. -/
def PatchAt (text : Bytes) (n : Nat) : Prop :=
  ∃ behind ds rest, text = 0x2E :: behind ∧ IsRun Char.isDigit behind ds rest ∧ ds ≠ [] ∧
    Ends isWord rest ∧ n = 1 + ds.length

/-- One digit, or two of which the first is 1. -/
def IsMinor (ds : List Char) : Prop :=
  ds.length = 1 ∨ ds.length = 2 ∧ ds.head? = some '1'

/-- At the front of a text stands a version of Go below 1.20, `n` bytes: the word `go 1.`, and all
the digits behind it as the minor version. The patch version belongs to it; where there is none, no
character of a word may follow. -/
def GoVersionAt (text : Bytes) (n : Nat) : Prop :=
  ∃ behind ds rest, text = goWord ++ behind ∧ IsRun Char.isDigit behind ds rest ∧ IsMinor ds ∧
    ((∃ k, PatchAt rest k ∧ n = goWord.length + ds.length + k) ∨
      ((∀ k, ¬PatchAt rest k) ∧ Ends isWord rest ∧ n = goWord.length + ds.length))

theorem patchEnd_eq_some_iff : patchEnd text = some n ↔ PatchAt text n := by
  rw [patchEnd, isDecimal_eq, Option.ite_none_right_eq_some, Option.some.injEq]
  constructor
  · rintro ⟨⟨hdot, hdigit, hword⟩, rfl⟩
    obtain ⟨behind, rfl⟩ := List.head?_eq_some_iff.1 hdot
    rw [List.tail_cons] at hdigit hword ⊢
    obtain ⟨ds, rest, hrun⟩ := Utf8.exists_isRun Char.isDigit behind
    rw [hrun.drop_run] at hword
    exact ⟨behind, ds, rest, rfl, hrun, hrun.starts_iff.1 hdigit, Utf8.starts_eq_false_iff.1 hword,
      by rw [hrun.run_eq, length_ofChars_of_isDigits hrun.holds]⟩
  · rintro ⟨behind, ds, rest, rfl, hrun, hne, hword, rfl⟩
    rw [List.tail_cons, hrun.drop_run, hrun.run_eq, length_ofChars_of_isDigits hrun.holds]
    exact ⟨⟨rfl, hrun.starts_iff.2 hne, Utf8.starts_eq_false_iff.2 hword⟩, rfl⟩

theorem restEnd_eq_some_iff : restEnd text = some n ↔
    PatchAt text n ∨ (∀ k, ¬PatchAt text k) ∧ Ends isWord text ∧ n = 0 := by
  have hnone : patchEnd text = none ↔ ∀ k, ¬PatchAt text k := by
    rw [Option.eq_none_iff_forall_ne_some]
    exact forall_congr' fun k => not_congr patchEnd_eq_some_iff
  have hword : (if starts isWord text = true then none else some 0) = some n ↔
      Ends isWord text ∧ n = 0 := by
    rw [← Utf8.starts_eq_false_iff]
    cases starts isWord text <;> simp [eq_comm]
  rw [restEnd, Option.or_eq_some_iff, patchEnd_eq_some_iff, hnone, hword]

section

variable {ds : List Char} {rest : Bytes} (h : IsRun Char.isDigit text ds rest)

include h

theorem minorEnd_eq_some_iff : minorEnd text = some n ↔ IsMinor ds ∧ n = ds.length := by
  have hrun : run isDecimal text = ds.length := by
    rw [isDecimal_eq, h.run_eq, length_ofChars_of_isDigits h.holds]
  have hhead : ds.length = 2 → (text.head? = some 0x31 ↔ ds.head? = some '1') := fun hlen => by
    have hne : ds ≠ [] := List.ne_nil_of_length_pos (by omega)
    rw [h.eq_append, head?_ofChars_append h.holds hne]
  rw [minorEnd, hrun, Option.ite_none_right_eq_some, and_congr_right hhead, Option.some.injEq,
    IsMinor, eq_comm (a := n)]

theorem versionEnd_eq_some_iff : versionEnd text = some n ↔
    IsMinor ds ∧ ∃ k, restEnd rest = some k ∧ n = ds.length + k := by
  have hdrop : text.drop ds.length = rest := by
    rw [← length_ofChars_of_isDigits h.holds, ← h.run_eq, h.drop_run]
  simp only [versionEnd, Option.bind_eq_some_iff, Option.map_eq_some_iff, minorEnd_eq_some_iff h]
  constructor
  · rintro ⟨_, ⟨hminor, rfl⟩, k, hk, rfl⟩
    exact ⟨hminor, k, hdrop ▸ hk, rfl⟩
  · rintro ⟨hminor, k, hk, rfl⟩
    exact ⟨_, ⟨hminor, rfl⟩, k, hdrop ▸ hk, rfl⟩

end

/-- **The scanner for the version of Go hits it where it stands.** -/
theorem hit_goVersion_iff_goVersionAt : goVersion.hit text = some n ↔ GoVersionAt text n := by
  rw [hit_goVersion]
  constructor
  · rintro ⟨⟨behind, rfl⟩, hver⟩
    rw [List.drop_left] at hver
    obtain ⟨m, hm, rfl⟩ := Option.map_eq_some_iff.1 hver
    obtain ⟨ds, rest, hrun⟩ := Utf8.exists_isRun Char.isDigit behind
    obtain ⟨hminor, k, hk, rfl⟩ := (versionEnd_eq_some_iff hrun).1 hm
    refine ⟨behind, ds, rest, rfl, hrun, hminor, ?_⟩
    rcases restEnd_eq_some_iff.1 hk with hpatch | ⟨hnone, hword, rfl⟩
    · exact Or.inl ⟨k, hpatch, (Nat.add_assoc _ _ _).symm⟩
    · exact Or.inr ⟨hnone, hword, rfl⟩
  · rintro ⟨behind, ds, rest, rfl, hrun, hminor, hrest⟩
    obtain ⟨k, hk, rfl⟩ : ∃ k, restEnd rest = some k ∧ n = goWord.length + (ds.length + k) := by
      rcases hrest with ⟨k, hpatch, rfl⟩ | ⟨hnone, hword, rfl⟩
      · exact ⟨k, restEnd_eq_some_iff.2 (Or.inl hpatch), Nat.add_assoc _ _ _⟩
      · exact ⟨0, restEnd_eq_some_iff.2 (Or.inr ⟨hnone, hword, rfl⟩), rfl⟩
    refine ⟨List.prefix_append _ _, ?_⟩
    rw [List.drop_left, (versionEnd_eq_some_iff hrun).2 ⟨hminor, k, hk, rfl⟩, Option.map_some]

/-! ## Before and behind the word for Go -/

theorem misses_goWord_tail : Misses goWord goWord.tail := by decide

/-- Whether there is a version at the front does not depend on what follows the next word for
Go. -/
theorem hit_append_goWord {pre : Bytes} (hne : pre ≠ []) (x y : Bytes) :
    goVersion.hit (pre ++ (goWord ++ x)) = goVersion.hit (pre ++ (goWord ++ y)) := by
  have hhit : ∀ {x y n}, goVersion.hit (pre ++ (goWord ++ x)) = some n →
      goVersion.hit (pre ++ (goWord ++ y)) = some n := by
    intro x y n hn
    obtain ⟨hword, hver⟩ := hit_goVersion.1 hn
    obtain ⟨w, rfl⟩ := prefix_of_prefix_append misses_goWord_tail hne hword
    have halike := alike_of_goWord (List.prefix_append goWord x) (List.prefix_append goWord y)
    rw [List.append_assoc, List.drop_left, halike.versionEnd_append] at hver
    rw [List.append_assoc]
    exact hit_goVersion.2 ⟨List.prefix_append _ _, by rw [List.drop_left, hver]⟩
  exact Option.ext fun n => ⟨hhit, hhit⟩

theorem le_of_hit_append_goWord {pre x : Bytes} (hne : pre ≠ [])
    (hn : goVersion.hit (pre ++ (goWord ++ x)) = some n) : n ≤ pre.length := by
  obtain ⟨hword, hver⟩ := hit_goVersion.1 hn
  obtain ⟨w, rfl⟩ := prefix_of_prefix_append misses_goWord_tail hne hword
  have halike := alike_of_goWord (List.prefix_append goWord x) (List.prefix_append goWord x)
  rw [List.append_assoc, List.drop_left] at hver
  obtain ⟨m, hm, rfl⟩ := Option.map_eq_some_iff.1 hver
  have hle := halike.versionEnd_le hm
  rw [List.length_append]
  omega

/-- **What stands before the word for Go is replaced independently of what follows the word.** -/
theorem exists_replace_append_goWord (pre : Bytes) :
    ∃ front, ∀ x, goVersion.replace goPinned (pre ++ (goWord ++ x)) =
      front ++ goVersion.replace goPinned (goWord ++ x) := by
  induction hlen : pre.length using Nat.strongRecOn generalizing pre with
  | ind len ih =>
    subst hlen
    cases pre with
    | nil => exact ⟨[], fun x => rfl⟩
    | cons b rest =>
      have hne : b :: rest ≠ [] := List.cons_ne_nil b rest
      cases hn : goVersion.hit (b :: rest ++ (goWord ++ [])) with
      | none =>
        obtain ⟨front, hfront⟩ := ih rest.length (Nat.lt_succ_self _) rest rfl
        refine ⟨b :: front, fun x => ?_⟩
        rw [hit_append_goWord hne [] x, List.cons_append] at hn
        rw [List.cons_append, Scanner.replace_of_hit_eq_none hn, hfront, List.cons_append]
      | some n =>
        have hpos := goVersion.pos hn
        have hle := le_of_hit_append_goWord hne hn
        obtain ⟨front, hfront⟩ := ih _ (by rw [List.length_drop]; omega) ((b :: rest).drop n) rfl
        refine ⟨goPinned ++ front, fun x => ?_⟩
        rw [hit_append_goWord hne [] x] at hn
        rw [Scanner.replace_of_hit hn, List.drop_append_of_le_length hle, hfront,
          List.append_assoc]

/-- A word for Go without a version below 1.20 is kept, and the scan goes on behind it. -/
theorem replace_goWord_append {x : Bytes} (hn : goVersion.hit (goWord ++ x) = none) :
    goVersion.replace goPinned (goWord ++ x) = goWord ++ goVersion.replace goPinned x :=
  Scanner.replace_append_of_hit_eq_none opens_goVersion misses_goWord_tail hn

/-! ## Directives -/

/-- The decimal digits of a number. -/
def decimal (n : Nat) : Bytes :=
  ofChars (Nat.toDigits 10 n)

/-- The bytes of a patch version with the dot before it, or none. -/
def patchText : Option Nat → Bytes
  | none => []
  | some patch => 0x2E :: decimal patch

/-- The directive for the version `1.minor` of Go, or `1.minor.patch`. -/
def directive (minor : Nat) (patch : Option Nat) : Bytes :=
  goWord ++ (decimal minor ++ patchText patch)

theorem ends_digit_patchText_append (patch : Option Nat) {post : Bytes}
    (h : Ends Char.isDigit post) : Ends Char.isDigit (patchText patch ++ post) := by
  cases patch with
  | none => exact h
  | some patch => exact Utf8.starts_eq_false_iff.1 (starts_digit_dot _)

theorem isRun_decimal (n : Nat) {rest : Bytes} (h : Ends Char.isDigit rest) :
    IsRun Char.isDigit (decimal n ++ rest) (Nat.toDigits 10 n) rest := by
  have hrun := (IsRun.of_ends h).append_left (isDigits_toDigits n)
  rwa [List.append_nil] at hrun

theorem isMinor_toDigits_iff {n : Nat} : IsMinor (Nat.toDigits 10 n) ↔ n < 20 := by
  have hlen1 : (Nat.toDigits 10 n).length ≤ 1 ↔ n < 10 := length_toDigits_le Nat.one_pos
  have hlen2 : (Nat.toDigits 10 n).length ≤ 2 ↔ n < 100 := length_toDigits_le Nat.two_pos
  have hpos : 0 < (Nat.toDigits 10 n).length := Nat.length_toDigits_pos
  unfold IsMinor
  by_cases h100 : n < 100
  · have hall : ∀ n < 100, 10 ≤ n → ((Nat.toDigits 10 n).head? = some '1' ↔ n < 20) := by
      decide +kernel
    by_cases h10 : n < 10
    · omega
    · rw [hall n h100 (by omega)]
      omega
  · omega

/-- The directive for a version below 1.20 is found as a whole, if neither the version nor a word
goes on behind it. -/
theorem goVersionAt_directive {minor : Nat} (hminor : minor < 20) (patch : Option Nat)
    {post : Bytes} (hword : Ends isWord post)
    (hdot : ∀ behind, post = 0x2E :: behind → Ends Char.isDigit behind) :
    GoVersionAt (directive minor patch ++ post) (directive minor patch).length := by
  have hdigit := ends_digit_of_ends_word hword
  have hlen : ∀ n, (decimal n).length = (Nat.toDigits 10 n).length := fun n =>
    length_ofChars_of_isDigits (isDigits_toDigits n)
  refine ⟨decimal minor ++ (patchText patch ++ post), Nat.toDigits 10 minor,
    patchText patch ++ post, ?_, isRun_decimal minor (ends_digit_patchText_append patch hdigit),
    isMinor_toDigits_iff.2 hminor, ?_⟩
  · rw [directive, List.append_assoc, List.append_assoc]
  · rw [directive, List.length_append, List.length_append, hlen, ← Nat.add_assoc]
    cases patch with
    | some patch =>
      refine Or.inl ⟨_, ⟨decimal patch ++ post, _, post, rfl, isRun_decimal patch hdigit, ?_, hword,
        rfl⟩, ?_⟩
      · exact List.ne_nil_of_length_pos Nat.length_toDigits_pos
      · rw [patchText, List.length_cons, hlen, Nat.add_comm (Nat.toDigits 10 patch).length]
    | none =>
      refine Or.inr ⟨?_, hword, rfl⟩
      rintro k ⟨behind, ds, rest, heq, hrun, hne, -⟩
      have hends := hdot behind heq
      rw [← Utf8.starts_eq_false_iff, hrun.starts_iff.2 hne] at hends
      cases hends

/-- A minor version from 20 on is none that is found, whatever follows it. -/
theorem hit_goWord_append_decimal {minor : Nat} (hminor : 20 ≤ minor) (x : Bytes) :
    goVersion.hit (goWord ++ (decimal minor ++ x)) = none := by
  rw [Option.eq_none_iff_forall_ne_some]
  intro n hn
  obtain ⟨-, hver⟩ := hit_goVersion.1 hn
  rw [List.drop_left] at hver
  obtain ⟨m, hm, -⟩ := Option.map_eq_some_iff.1 hver
  obtain ⟨ds, rest, hrun⟩ := Utf8.exists_isRun Char.isDigit x
  have hbelow := ((versionEnd_eq_some_iff (hrun.append_left (isDigits_toDigits minor))).1 hm).1
  -- No digit can follow a minor version of two digits or more.
  have hlen : ¬(Nat.toDigits 10 minor).length ≤ 1 := fun hle => by
    have hlt : minor < 10 := (length_toDigits_le Nat.one_pos).1 hle
    omega
  have hnil : ds = [] := by
    rw [IsMinor, List.length_append] at hbelow
    exact List.eq_nil_of_length_eq_zero (by omega)
  rw [hnil, List.append_nil, isMinor_toDigits_iff] at hbelow
  omega

/-- A word for Go never starts in the number of a version. -/
theorem misses_decimal_append_patchText (minor : Nat) (patch : Option Nat) :
    Misses goWord (decimal minor ++ patchText patch) := by
  have hdecimal : ∀ n, ∀ b ∈ decimal n, goWord.head? ≠ some b := by
    rintro n b hb hhead
    obtain ⟨c, hc, hb⟩ := List.mem_flatMap.1 hb
    have hdigit := isDigits_toDigits n c hc
    rw [encode_of_isDigit hdigit, List.mem_singleton] at hb
    have hle := toNat_le_of_isDigit hdigit
    have hg : 0x67 = UInt8.ofNat c.toNat := hb ▸ Option.some.inj hhead
    have hval : 0x67 = (UInt8.ofNat c.toNat).toNat := congrArg UInt8.toNat hg
    rw [Utf8.toNat_ofNat_of_lt (by omega)] at hval
    omega
  refine misses_of_forall_ne (by decide) fun b hb => ?_
  rcases List.mem_append.1 hb with hb | hb
  · exact hdecimal minor b hb
  · cases patch with
    | none => cases hb
    | some patch =>
      rcases List.mem_cons.1 hb with rfl | hb
      · decide
      · exact hdecimal patch b hb

theorem rulesFor_goMod : table.rulesFor goModPath = [netRule.rule, goRule] := by
  rw [Table.rulesFor, entries_table]
  rfl

/-- **The rule for the version of Go is a plain scan of any bytes.** Its matches are the versions
below 1.20 that one comes upon from left to right, and they are replaced. So a directive with a
minor version from 20 on is kept, and one with a minor version below 20 becomes the one for 1.20,
wherever they stand. -/
theorem matches_goRule_iff_leftmost (content : Bytes) :
    goRule ∈ table.rulesFor goModPath ∧
      (∀ l, l = goRule.expr.matches content ↔
        Leftmost (fun place n => GoVersionAt (content.drop place) n) 0 l) ∧
      goRule.apply content =
        splice (Utf8.ofString "go 1.20") (goRule.expr.matches content) 0 content ∧
      ∀ pre, ∃ front, goRule.apply (pre ++ goWord) = front ++ goWord ∧
        (∀ minor patch post, 20 ≤ minor →
          goRule.apply (pre ++ directive minor patch ++ post) =
            front ++ directive minor patch ++ goRule.apply post) ∧
        ∀ minor patch post, minor < 20 → Ends isWord post →
          (∀ behind, post = 0x2E :: behind → Ends Char.isDigit behind) →
            goRule.apply (pre ++ directive minor patch ++ post) =
              front ++ Utf8.ofString "go 1.20" ++ goRule.apply post := by
  have happly : ∀ text, goRule.apply text = goVersion.replace goPinned text :=
    Rule.apply_eq_replace (r := goRule) finds_goVersion
  refine ⟨?_, fun l => ?_, goRule.apply_eq_splice content, fun pre => ?_⟩
  · rw [rulesFor_goMod]
    exact List.mem_cons_of_mem _ List.mem_cons_self
  · exact (finds_goVersion.leftmost_iff hit_goVersion_iff_goVersionAt).symm
  · obtain ⟨front, hfront⟩ := exists_replace_append_goWord pre
    refine ⟨front, ?_, ?_, ?_⟩
    · have hword := hfront []
      rw [List.append_nil] at hword
      rw [happly, hword]
      rfl
    · intro minor patch post hminor
      have hnone := hit_goWord_append_decimal hminor (patchText patch ++ post)
      rw [happly, happly, directive, List.append_assoc, List.append_assoc, List.append_assoc,
        hfront, replace_goWord_append hnone, ← List.append_assoc (decimal minor),
        Scanner.replace_append opens_goVersion (misses_decimal_append_patchText minor patch)]
      simp only [List.append_assoc]
    · intro minor patch post hminor hword hdot
      have hit := hit_goVersion_iff_goVersionAt.2 (goVersionAt_directive hminor patch hword hdot)
      have hreplace := Scanner.replace_of_hit (r := goPinned) hit
      rw [List.drop_left, directive, List.append_assoc] at hreplace
      rw [happly, happly, directive, List.append_assoc, List.append_assoc, hfront, hreplace,
        List.append_assoc]
      rfl

/-- More digits, or letters of any script, make a version none that is found; letters behind a patch
version leave only the minor version. Bytes that encode no character end a version. -/
theorem matches_goRule_iff_leftmost_edges :
    let content := Utf8.ofString "go 1.1 go 1.190 go 1.19.2rc1 go 1.9é go 1.9" ++ [0xFF]
    let pre := Utf8.ofString "go 1.1"
    Leftmost (fun place n => GoVersionAt (content.drop place) n) 0 [⟨0, 6⟩, ⟨16, 23⟩, ⟨38, 44⟩] ∧
      goRule.apply content =
        Utf8.ofString "go 1.20 go 1.190 go 1.20.2rc1 go 1.9é go 1.20" ++ [0xFF] ∧
      19 < 20 ∧ 20 ≤ 190 ∧ Ends isWord [0xFF] ∧
      (∀ behind, [0xFF] = 0x2E :: behind → Ends Char.isDigit behind) ∧
      goRule.apply (pre ++ directive 19 (some 2) ++ [0xFF]) =
        pre ++ Utf8.ofString "go 1.20" ++ goRule.apply [0xFF] ∧
      goRule.apply (pre ++ directive 190 none ++ [0xFF]) =
        pre ++ directive 190 none ++ goRule.apply [0xFF] := by
  intro content pre
  obtain ⟨-, hleftmost, happly, hdirective⟩ := matches_goRule_iff_leftmost content
  have hmatches : [⟨0, 6⟩, ⟨16, 23⟩, ⟨38, 44⟩] = goRule.expr.matches content := by decide +kernel
  have hresult : goRule.apply content =
      Utf8.ofString "go 1.20 go 1.190 go 1.20.2rc1 go 1.9é go 1.20" ++ [0xFF] := by
    rw [happly, ← hmatches]
    decide +kernel
  have hword : Ends isWord [0xFF] := Utf8.starts_eq_false_iff.1 rfl
  have hdot : ∀ behind, [0xFF] = 0x2E :: behind → Ends Char.isDigit behind := fun _ h =>
    absurd (List.cons.inj h).1 (by decide)
  obtain ⟨front, hfront, hkept, hpinned⟩ := hdirective pre
  obtain rfl : pre = front := by
    refine List.append_cancel_right (Eq.trans ?_ hfront)
    decide +kernel
  exact ⟨(hleftmost _).1 hmatches, hresult, by decide, by decide, hword, hdot,
    hpinned 19 (some 2) [0xFF] (by decide) hword hdot, hkept 190 none [0xFF] (by decide)⟩

end Downstream.OpenShift
