import Downstream.Proofs.Pattern.Overlap

/-!
# Words with a tag

The scanner `tagged p word` hits a word that a tag follows: the longest run, one character at least,
of characters that `p` holds of. A text may be put in its place that has the form of such a hit
itself; `FitsTag` says when this text and the word overlap harmlessly.

* After replacing all hits, the text is settled (`FitsTag.settled_replace`).
* It stays settled when another scanner replaces its hits, unless these or their replacement overlap
  with the word (`Settled.replace_of_keepsTag`).
* So a text is settled for each of several words once all of them were replaced, one after the other
  (`settled_replaceTags`).
-/

namespace Downstream.Pattern.Scanner

open Utf8 (starts run IsAscii)

variable {p : Char → Bool} {word r : Bytes}

/-- Hits a word with a tag behind it. -/
def tagged (p : Char → Bool) (word : Bytes) : Scanner where
  hit text :=
    if word <+: text ∧ starts p (text.drop word.length) = true then
      some (word.length + run p (text.drop word.length))
    else none
  pos := fun {text n} h => by
    split at h
    next hc =>
      cases h
      have hrun : run p (text.drop word.length) ≠ 0 := fun h0 =>
        absurd hc.2 (by rw [Utf8.run_eq_zero_iff.1 h0]; simp)
      omega
    next => cases h
  le := fun {text n} h => by
    split at h
    next hc =>
      cases h
      have hword := hc.1.length_le
      have hrun := Utf8.run_le_length (p := p) (text.drop word.length)
      rw [List.length_drop] at hrun
      omega
    next => cases h

theorem hit_tagged {text : Bytes} {n : Nat} :
    (tagged p word).hit text = some n ↔
      word <+: text ∧ starts p (text.drop word.length) = true ∧
        n = word.length + run p (text.drop word.length) := by
  simp only [tagged]
  by_cases h : word <+: text ∧ starts p (text.drop word.length) = true
  · rw [if_pos h, Option.some.injEq]
    exact ⟨fun hn => ⟨h.1, h.2, hn.symm⟩, fun hn => hn.2.2.symm⟩
  · rw [if_neg h]
    refine ⟨fun hn => ?_, fun hn => absurd ⟨hn.1, hn.2.1⟩ h⟩
    cases hn

theorem hit_tagged_eq_none {text : Bytes} :
    (tagged p word).hit text = none ↔
      ¬(word <+: text ∧ starts p (text.drop word.length) = true) := by
  simp only [tagged, ite_eq_right_iff, reduceCtorEq, imp_false]

theorem opens_tagged : (tagged p word).Opens word := fun h => (hit_tagged.1 h).1

/-- Behind a hit no further character of the tag follows. -/
theorem starts_drop_of_hit_tagged {text : Bytes} {n : Nat} (h : (tagged p word).hit text = some n) :
    starts p (text.drop n) = false := by
  obtain ⟨-, -, rfl⟩ := hit_tagged.1 h
  rw [← List.drop_drop, ← Utf8.run_eq_zero_iff, Utf8.run_drop_run]

/-- A replacement for hits of a word with a tag that does not bring about other hits: it overlaps
with the word only if it is the word with a tag itself, as a whole. -/
structure FitsTag (p : Char → Bool) (word r : Bytes) : Prop where
  /-- No end of the word goes on in the replacement. -/
  tails : Misses r word.tail
  /-- No end of the replacement goes on as the word. -/
  inside : Misses word r.tail
  whole : ¬Meets word r ∨ (word <+: r ∧ ∀ b ∈ r.drop word.length, IsAscii p b)
  word_starts : StartsAscii p word
  replacement_starts : StartsAscii p r

theorem fitsTag_iff : FitsTag p word r ↔
    Misses r word.tail ∧ Misses word r.tail ∧
      (¬Meets word r ∨
        (word <+: r ∧ (r.drop word.length).all (fun b => decide (IsAscii p b)) = true)) ∧
      StartsAscii p word ∧ StartsAscii p r := by
  simp only [List.all_eq_true, decide_eq_true_eq]
  exact ⟨fun h => ⟨h.tails, h.inside, h.whole, h.word_starts, h.replacement_starts⟩,
    fun ⟨h1, h2, h3, h4, h5⟩ => ⟨h1, h2, h3, h4, h5⟩⟩

instance : Decidable (FitsTag p word r) := decidable_of_iff _ fitsTag_iff.symm

namespace FitsTag

/-- The replacement is hit as a whole, if it is, where no character of the tag follows. -/
theorem take_of_hit (h : FitsTag p word r) {v : Bytes} (hv : starts p v = false) {n : Nat}
    (hn : (tagged p word).hit (r ++ v) = some n) : (r ++ v).take n = r := by
  obtain ⟨hword, -, rfl⟩ := hit_tagged.1 hn
  rcases h.whole with hmeets | ⟨⟨tag, rfl⟩, htag⟩
  · exact absurd (Meets.of_isPrefix_append hword) hmeets
  · rw [List.drop_left] at htag
    rw [List.append_assoc, List.drop_left, Utf8.run_append htag, Utf8.run_of_not_starts hv,
      Nat.add_zero, ← List.length_append, ← List.append_assoc, List.take_left]

/-- **Replacing the hits of a word with a tag leaves no other hit.** -/
theorem settled_replace (h : FitsTag p word r) (text : Bytes) :
    (tagged p word).Settled r ((tagged p word).replace r text) := by
  intro u hu n hn
  obtain ⟨hword, htag, -⟩ := hit_tagged.1 hn
  rcases tail_replace hu with ⟨t, -, rfl⟩ | ⟨t, m, ρ, -, -, hρ, hne, hρr, rfl⟩
  · induction t using (tagged p word).induction with
    | nil =>
      rw [replace_nil, hit_nil] at hn
      cases hn
    | kept b rest hk _ =>
      -- The word was there before, and so was the tag.
      obtain ⟨hpre, hdrop⟩ :=
        prefix_of_prefix_replace_cons h.word_starts.ne_nil h.tails hk hword
      rw [hdrop, starts_replace opens_tagged h.word_starts h.replacement_starts] at htag
      rw [hit_tagged_eq_none] at hk
      exact absurd ⟨hpre, htag⟩ hk
    | made t m hm _ =>
      rw [replace_of_hit hm] at hn ⊢
      refine h.take_of_hit ?_ hn
      rw [starts_replace opens_tagged h.word_starts h.replacement_starts]
      exact starts_drop_of_hit_tagged hm
  · -- The word would start inside a replacement, but not at its front.
    have hρt : ρ <:+ r.tail := by
      cases r with
      | nil => exact absurd (List.suffix_nil.1 hρ) hne
      | cons b r => exact (List.suffix_cons_iff.1 hρ).resolve_left hρr
    exact absurd (Meets.of_isPrefix (List.prefix_append ρ _) hword) (h.inside.not_meets hρt hne)

end FitsTag

/-- What all hits of another scanner start with, and what replaces them, do not overlap with a word,
nor with what is put in place of the word and its tag. -/
structure KeepsTag (p : Char → Bool) (front r word r' : Bytes) : Prop where
  /-- No end of the word goes on in the replacement. -/
  tails : Misses r word
  /-- No end of the replacement goes on as the word. -/
  inside : Misses word r
  /-- No hit starts in what is put in place of the word. -/
  outside : Misses front r'
  front_starts : StartsAscii p front
  replacement_starts : StartsAscii p r

theorem keepsTag_iff {front r' : Bytes} : KeepsTag p front r word r' ↔
    Misses r word ∧ Misses word r ∧ Misses front r' ∧ StartsAscii p front ∧ StartsAscii p r :=
  ⟨fun h => ⟨h.tails, h.inside, h.outside, h.front_starts, h.replacement_starts⟩,
    fun ⟨h1, h2, h3, h4, h5⟩ => ⟨h1, h2, h3, h4, h5⟩⟩

instance {front r' : Bytes} : Decidable (KeepsTag p front r word r') :=
  decidable_of_iff _ keepsTag_iff.symm

/-- **A text with no other hits of a word stays so when something else is replaced in it.** -/
theorem Settled.replace_of_keepsTag {s : Scanner} {front r' text : Bytes} (hs : s.Opens front)
    (hk : KeepsTag p front r word r') (hr' : FitsTag p word r')
    (h : (tagged p word).Settled r' text) : (tagged p word).Settled r' (s.replace r text) := by
  intro u hu n hn
  obtain ⟨hword, htag, -⟩ := hit_tagged.1 hn
  rcases tail_replace hu with ⟨t, ht, rfl⟩ | ⟨t, m, ρ, -, -, hρ, hne, -, rfl⟩
  · -- The word and its tag were there before, so they were what is put in their place.
    obtain ⟨hpre, heq⟩ := prefix_of_prefix_replace hk.tails hword
    rw [heq, List.drop_left, starts_replace hs hk.front_starts hk.replacement_starts] at htag
    have hit := hit_tagged.2 ⟨hpre, htag, rfl⟩
    obtain ⟨v, hv, rfl⟩ : ∃ v, starts p v = false ∧ t = r' ++ v :=
      ⟨_, starts_drop_of_hit_tagged hit, by
        conv => rhs; rw [← h t ht _ hit, List.take_append_drop]⟩
    rw [replace_append hs hk.outside] at hn ⊢
    refine hr'.take_of_hit ?_ hn
    rw [starts_replace hs hk.front_starts hk.replacement_starts, hv]
  · exact absurd (Meets.of_isPrefix (List.prefix_append ρ _) hword) (hk.inside.not_meets hρ hne)

/-! ## Several words, one after the other -/

/-- A word, and what is put in place of it and its tag. -/
structure Retag where
  word : Bytes
  replacement : Bytes
  deriving Repr, DecidableEq

/-- The text after the tags of several words were replaced, one after the other. -/
def replaceTags (p : Char → Bool) (l : List Retag) (text : Bytes) : Bytes :=
  l.foldl (fun text w => (tagged p w.word).replace w.replacement text) text

/-- A word keeps its tags when others get theirs replaced. -/
theorem Settled.replaceTags {w : Retag} (hw : FitsTag p w.word w.replacement) {l : List Retag}
    (hl : ∀ v ∈ l, KeepsTag p v.word v.replacement w.word w.replacement) {text : Bytes}
    (h : (tagged p w.word).Settled w.replacement text) :
    (tagged p w.word).Settled w.replacement (replaceTags p l text) := by
  induction l generalizing text with
  | nil => exact h
  | cons v l ih =>
    exact ih (fun v' hv => hl v' (List.mem_cons_of_mem v hv))
      (h.replace_of_keepsTag opens_tagged (hl v List.mem_cons_self) hw)

/-- **After several words got their tags replaced, the text is settled for each of them**, if none
that comes later overlaps with one that came before. -/
theorem settled_replaceTags {l : List Retag} (hfits : ∀ w ∈ l, FitsTag p w.word w.replacement)
    (hkeeps : l.Pairwise fun w v => KeepsTag p v.word v.replacement w.word w.replacement)
    (text : Bytes) :
    ∀ w ∈ l, (tagged p w.word).Settled w.replacement (replaceTags p l text) := by
  induction l generalizing text with
  | nil => exact fun w hw => nomatch hw
  | cons v l ih =>
    obtain ⟨hv, hl⟩ := List.pairwise_cons.1 hkeeps
    intro w hw
    rcases List.mem_cons.1 hw with rfl | hw
    · have hfit := hfits w List.mem_cons_self
      exact (hfit.settled_replace text).replaceTags hfit hv
    · exact ih (fun w hw => hfits w (List.mem_cons_of_mem v hw)) hl _ w hw

end Downstream.Pattern.Scanner
