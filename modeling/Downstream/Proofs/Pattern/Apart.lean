import Downstream.Proofs.Pattern.Tag
import Downstream.Proofs.Text.Encode

/-!
# Words that are replaced in either order

Where words and their replacements have characters of tags only, replacing the tags of a word does
not move the end of any run of such characters (`Retag.InTags.drop_run_replace`): what was a tag
stays one, whatever happens inside. So of two words in one run the first one counts, and it counts
whichever of the two is replaced first, unless one of them comes about where the other, or what is
put in its place, is (`Retag.Clears`).

* One step of both scans: where one of the words is hit, both orders lead to the same
  (`replace_replace_of_hit`, `replace_replace_of_hit_other`).
* So replacing the tags of two words commutes (`replace_comm`).
-/

namespace Downstream.Pattern.Scanner

open Utf8 (starts run IsAscii continues encode)

variable {p : Char → Bool}

/-! ## Characters of several bytes -/

/-- A text that starts with an ASCII character does not start inside another character. -/
theorem misses_of_continues {front tail : Bytes} (hfront : StartsAscii p front)
    (h : ∀ b ∈ tail, continues b = true) : Misses front tail :=
  misses_of_forall_ne hfront.ne_nil fun b hb hhead => hfront.fresh b hhead (h b hb)

/-- A character that starts no hit is kept with all its bytes. -/
theorem replace_encode_append {s : Scanner} {front r : Bytes} (hs : s.Opens front)
    (hfront : StartsAscii p front) {c : Char} {rest : Bytes}
    (hn : s.hit (encode c ++ rest) = none) :
    s.replace r (encode c ++ rest) = encode c ++ s.replace r rest := by
  obtain ⟨a, tail, hencode, htail⟩ := Utf8.exists_encode_eq_cons c
  rw [hencode] at hn ⊢
  exact replace_append_of_hit_eq_none (x := a :: tail) hs (misses_of_continues hfront htail) hn

/-! ## Runs of characters of tags -/

/-- A word and what is put in place of it and its tag, both of which could stand in a tag. -/
structure Retag.InTags (p : Char → Bool) (w : Retag) : Prop where
  word : ∀ b ∈ w.word, IsAscii p b
  word_ne_nil : w.word ≠ []
  replacement : ∀ b ∈ w.replacement, IsAscii p b
  replacement_ne_nil : w.replacement ≠ []

theorem Retag.inTags_iff {w : Retag} : w.InTags p ↔
    (w.word.all (fun b => decide (IsAscii p b)) = true ∧ w.word ≠ []) ∧
      w.replacement.all (fun b => decide (IsAscii p b)) = true ∧ w.replacement ≠ [] := by
  simp only [List.all_eq_true, decide_eq_true_eq]
  exact ⟨fun h => ⟨⟨h.word, h.word_ne_nil⟩, h.replacement, h.replacement_ne_nil⟩,
    fun ⟨⟨h1, h2⟩, h3, h4⟩ => ⟨h1, h2, h3, h4⟩⟩

instance (w : Retag) : Decidable (w.InTags p) := decidable_of_iff _ Retag.inTags_iff.symm

theorem startsAscii_of_forall {text : Bytes} (h : ∀ b ∈ text, IsAscii p b) (hne : text ≠ []) :
    StartsAscii p text := by
  obtain ⟨b, rest, rfl⟩ := List.exists_cons_of_ne_nil hne
  exact ⟨b, rfl, h b List.mem_cons_self⟩

namespace Retag.InTags

variable {w : Retag} (h : w.InTags p)

include h

theorem word_starts : StartsAscii p w.word := startsAscii_of_forall h.word h.word_ne_nil

theorem replacement_starts : StartsAscii p w.replacement :=
  startsAscii_of_forall h.replacement h.replacement_ne_nil

theorem starts_replace (text : Bytes) :
    starts p ((tagged p w.word).replace w.replacement text) = starts p text :=
  Scanner.starts_replace opens_tagged h.word_starts h.replacement_starts text

/-- **Behind a run of characters of tags, replacing goes on as it would without the run.** -/
theorem drop_run_replace (text : Bytes) :
    ((tagged p w.word).replace w.replacement text).drop
        (run p ((tagged p w.word).replace w.replacement text)) =
      (tagged p w.word).replace w.replacement (text.drop (run p text)) := by
  induction text using Utf8.run_induction (p := p) with
  | stop text hs =>
    have hs' := (h.starts_replace text).trans hs
    rw [Utf8.run_of_not_starts hs, Utf8.run_of_not_starts hs', List.drop_zero, List.drop_zero]
  | step text c width hd hp ih =>
    cases hn : (tagged p w.word).hit text with
    | some n =>
      -- The hit takes the run to its end, and so does the replacement.
      have hend := (h.starts_replace (text.drop n)).trans (starts_drop_of_hit_tagged hn)
      obtain ⟨⟨tag, rfl⟩, -, hlen⟩ := hit_tagged.1 hn
      rw [List.drop_left] at hlen
      rw [replace_of_hit hn, Utf8.run_append h.word, ← hlen, Utf8.run_append h.replacement,
        Utf8.run_of_not_starts hend, Nat.add_zero, List.drop_left]
    | none =>
      obtain ⟨⟨rest, rfl⟩, rfl⟩ := Utf8.decode?_eq_some_iff.1 hd
      rw [List.drop_left] at ih
      rw [replace_encode_append opens_tagged h.word_starts hn, Utf8.run_encode_append hp,
        Utf8.run_encode_append hp, ← List.drop_drop, ← List.drop_drop, List.drop_left,
        List.drop_left, ih]

end Retag.InTags

/-! ## Two words -/

/-- Neither the word of `w` nor what is put in its place overlaps with the word of `v`. -/
structure Retag.Clears (w v : Retag) : Prop where
  /-- No end of the other word goes on in the replacement. -/
  tails : Misses w.replacement v.word
  /-- No end of the replacement goes on as the other word. -/
  inside : Misses v.word w.replacement
  /-- The other word does not start in the word. -/
  outside : Misses v.word w.word

theorem Retag.clears_iff {w v : Retag} : w.Clears v ↔
    Misses w.replacement v.word ∧ Misses v.word w.replacement ∧ Misses v.word w.word :=
  ⟨fun h => ⟨h.tails, h.inside, h.outside⟩, fun ⟨h1, h2, h3⟩ => ⟨h1, h2, h3⟩⟩

instance (w v : Retag) : Decidable (w.Clears v) := decidable_of_iff _ Retag.clears_iff.symm

variable {w v : Retag} {text : Bytes}

/-- Replacing the tags of `w` brings about no hit of `v`. -/
theorem hit_replace_eq_none (hw : w.InTags p) (h : w.Clears v)
    (hn : (tagged p v.word).hit text = none) :
    (tagged p v.word).hit ((tagged p w.word).replace w.replacement text) = none := by
  rw [hit_tagged_eq_none] at hn ⊢
  rintro ⟨hword, htag⟩
  obtain ⟨hpre, heq⟩ := prefix_of_prefix_replace h.tails hword
  rw [heq, List.drop_left, hw.starts_replace] at htag
  exact hn ⟨hpre, htag⟩

/-- Where `w` is hit, replacing it first puts its replacement there. -/
theorem replace_replace_of_hit (h : w.Clears v) {n : Nat}
    (hn : (tagged p w.word).hit text = some n) :
    (tagged p v.word).replace v.replacement ((tagged p w.word).replace w.replacement text) =
      w.replacement ++ (tagged p v.word).replace v.replacement
        ((tagged p w.word).replace w.replacement (text.drop n)) := by
  rw [replace_of_hit hn, replace_append opens_tagged h.inside]

/-- Where `w` is hit, it still is when the tags of `v` were replaced before. -/
theorem replace_replace_of_hit_other (hv : v.InTags p) (h : w.Clears v) {n : Nat}
    (hn : (tagged p w.word).hit text = some n) :
    (tagged p w.word).replace w.replacement ((tagged p v.word).replace v.replacement text) =
      w.replacement ++ (tagged p w.word).replace w.replacement
        ((tagged p v.word).replace v.replacement (text.drop n)) := by
  obtain ⟨⟨tag, rfl⟩, htag, rfl⟩ := hit_tagged.1 hn
  rw [List.drop_left] at htag ⊢
  rw [replace_append opens_tagged h.outside]
  have hit : (tagged p w.word).hit (w.word ++ (tagged p v.word).replace v.replacement tag) =
      some (w.word.length + run p ((tagged p v.word).replace v.replacement tag)) :=
    hit_tagged.2 ⟨List.prefix_append _ _, by rw [List.drop_left, hv.starts_replace, htag],
      by rw [List.drop_left]⟩
  rw [replace_of_hit hit, ← List.drop_drop, List.drop_left, hv.drop_run_replace, ← List.drop_drop,
    List.drop_left]

/-- **The tags of two words can be replaced in either order**, if neither word comes about where the
other one is replaced. -/
theorem replace_comm (hw : w.InTags p) (hv : v.InTags p) (hwv : w.Clears v) (hvw : v.Clears w)
    (text : Bytes) :
    (tagged p v.word).replace v.replacement ((tagged p w.word).replace w.replacement text) =
      (tagged p w.word).replace w.replacement
        ((tagged p v.word).replace v.replacement text) := by
  induction hlen : text.length using Nat.strongRecOn generalizing text with
  | ind len ih =>
    subst hlen
    have hless : ∀ {s : Scanner} {n}, s.hit text = some n → (text.drop n).length < text.length := by
      intro s n hn
      have hpos := s.pos hn
      have hle := s.le hn
      rw [List.length_drop]
      omega
    cases hn : (tagged p w.word).hit text with
    | some n =>
      rw [replace_replace_of_hit hwv hn, replace_replace_of_hit_other hv hwv hn,
        ih _ (hless hn) _ rfl]
    | none =>
      cases hm : (tagged p v.word).hit text with
      | some m =>
        rw [replace_replace_of_hit hvw hm, replace_replace_of_hit_other hw hvw hm,
          ih _ (hless hm) _ rfl]
      | none =>
        cases text with
        | nil => rfl
        | cons b rest =>
          have hn' := hit_replace_eq_none hv hvw hn
          have hm' := hit_replace_eq_none hw hwv hm
          rw [replace_of_hit_eq_none hm] at hn' ⊢
          rw [replace_of_hit_eq_none hn] at hm' ⊢
          rw [replace_of_hit_eq_none hm', replace_of_hit_eq_none hn',
            ih rest.length (Nat.lt_succ_self _) rest rfl]

end Downstream.Pattern.Scanner
