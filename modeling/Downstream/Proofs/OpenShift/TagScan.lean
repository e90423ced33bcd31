import Downstream.Proofs.OpenShift.Rules
import Downstream.Proofs.Pattern.Leftmost
import Downstream.Proofs.Text.Encode

/-!
# What the rules for words find

A rule for a word finds the word with a tag behind it: characters that are neither white space nor
quotes, one at least and as many as there are. `TaggedAt` says so in terms of the bytes that encode
these characters. Whatever the bytes of a content are, the rule replaces the tagged words that one
comes upon from left to right, and nothing else (`TagRule.matches_iff_leftmost`).
-/

namespace Downstream.OpenShift

open Pattern
open Unicode (CharSet)
open Utf8 (ofChars)

/-- Whether a character is one of a tag: neither white space nor a quote. -/
def isTagChar (c : Char) : Bool :=
  !Unicode.whiteSpace.has c.toNat && c != '"' && c != '\''

theorem isTag_eq : isTag = isTagChar := by
  funext c
  have hsingle : ∀ d : Char, (CharSet.single d.toNat).has c.toNat = (c == d) := fun d => by
    rw [Bool.eq_iff_iff, Expr.has_single, Char.toNat_inj, beq_iff_eq, eq_comm]
  have htag : isTag c = !(Unicode.whiteSpace.has c.toNat ||
    ((CharSet.single '"'.toNat).has c.toNat || (CharSet.single '\''.toNat).has c.toNat)) := rfl
  rw [htag, isTagChar, hsingle, hsingle, Bool.not_or, Bool.not_or, ← Bool.and_assoc]
  rfl

/-- At the front of a text stands a word with a tag behind it, together `n` bytes. The tag is all
the characters of tags that there are, one at least. -/
def TaggedAt (word text : Bytes) (n : Nat) : Prop :=
  ∃ behind tag rest, text = word ++ behind ∧ Utf8.IsRun isTagChar behind tag rest ∧ tag ≠ [] ∧
    n = word.length + (ofChars tag).length

/-- **The scanner for a word hits it where a tag stands behind it**, and takes all of the tag. -/
theorem hit_tagged_iff_taggedAt {word text : Bytes} {n : Nat} :
    (Scanner.tagged isTag word).hit text = some n ↔ TaggedAt word text n := by
  rw [Scanner.hit_tagged, isTag_eq]
  constructor
  · rintro ⟨⟨behind, rfl⟩, hstarts, rfl⟩
    rw [List.drop_left] at hstarts ⊢
    obtain ⟨tag, rest, hrun⟩ := Utf8.exists_isRun isTagChar behind
    exact ⟨behind, tag, rest, rfl, hrun, hrun.starts_iff.1 hstarts, by rw [hrun.run_eq]⟩
  · rintro ⟨behind, tag, rest, rfl, hrun, hne, rfl⟩
    rw [List.drop_left, hrun.run_eq]
    exact ⟨List.prefix_append _ _, hrun.starts_iff.2 hne, rfl⟩

/-! ## The rules -/

/-- The words with tags that the built-in rules replace. -/
def tagRules : List TagRule :=
  proxyRule :: imageRules ++ [netRule]

/-- The rules of the built-in table: those for words with tags, and the one for the version of
Go. -/
theorem exists_mem_table_iff {r : Rule} :
    (∃ entry ∈ table.entries, r ∈ entry.2) ↔ r ∈ tagRules.map TagRule.rule ∨ r = goRule := by
  rw [entries_table]
  simp only [tagRules, List.mem_cons, List.not_mem_nil, or_false, exists_eq_or_imp, exists_eq_left,
    List.cons_append, List.map_cons, List.map_append, List.map_nil, List.mem_append,
    or_assoc]
  exact or_left_comm

/-- What holds of the rules for words with tags and of the one for the version of Go holds of the
rules of every file. -/
theorem forall_of_mem_table {P : Rule → Prop} (htags : ∀ w ∈ tagRules, P w.rule) (hgo : P goRule)
    {path : String} {rules : List Rule} (h : (path, rules) ∈ table.entries) : ∀ r ∈ rules, P r := by
  intro r hr
  rcases exists_mem_table_iff.1 ⟨_, h, hr⟩ with hr | rfl
  · obtain ⟨w, hw, rfl⟩ := List.mem_map.1 hr
    exact htags w hw
  · exact hgo

namespace TagRule

variable {w : TagRule}

/-- The word of a rule does not overlap with itself. -/
theorem misses_word_tail (hw : w ∈ tagRules) :
    Misses (Utf8.ofString w.word) (Utf8.ofString w.word).tail := by
  have hall : ∀ w ∈ tagRules, Misses (Utf8.ofString w.word) (Utf8.ofString w.word).tail := by
    decide +kernel
  exact hall w hw

/-- A word without a tag is left alone, and the scan goes on behind it. -/
theorem apply_word_append (hw : w ∈ tagRules) {rest : Bytes} (hrest : Utf8.Ends isTagChar rest) :
    w.rule.apply (Utf8.ofString w.word ++ rest) = Utf8.ofString w.word ++ w.rule.apply rest := by
  have hn : w.scanner.hit (Utf8.ofString w.word ++ rest) = none := by
    rw [scanner, Scanner.hit_tagged_eq_none, List.drop_left, isTag_eq,
      Utf8.starts_eq_false_iff.2 hrest]
    exact fun h => Bool.false_ne_true h.2
  rw [Rule.apply_eq_replace w.finds_scanner, Rule.apply_eq_replace w.finds_scanner]
  exact Scanner.replace_append_of_hit_eq_none Scanner.opens_tagged (misses_word_tail hw) hn

/-- **A rule for a word is a plain scan of any bytes.** Its matches are the words with tags that one
comes upon from left to right. They are replaced, and all other bytes are kept. No word with a tag is
passed over, unless it stands in the tag of another; a word without a tag is left alone, and the scan
goes on behind it. -/
theorem matches_iff_leftmost (hw : w ∈ tagRules) (content : Bytes) :
    let word := Utf8.ofString w.word
    (∃ entry ∈ table.entries, w.rule ∈ entry.2) ∧
      (∀ l, l = w.rule.expr.matches content ↔
        Leftmost (fun place n => TaggedAt word (content.drop place) n) 0 l) ∧
      w.rule.apply content = splice (Utf8.ofString w.replacement) (w.rule.expr.matches content) 0
        content ∧
      (∀ place n, TaggedAt word (content.drop place) n →
        ∃ sp ∈ w.rule.expr.matches content, sp.start ≤ place ∧ place < sp.stop) ∧
      ∀ rest, Utf8.Ends isTagChar rest →
        w.rule.apply (word ++ rest) = word ++ w.rule.apply rest := by
  intro word
  have hmem : w.rule ∈ tagRules.map rule := List.mem_map_of_mem hw
  have hleftmost : ∀ l, l = w.rule.expr.matches content ↔
      Leftmost (fun place n => TaggedAt word (content.drop place) n) 0 l := fun l =>
    (w.finds_scanner.leftmost_iff hit_tagged_iff_taggedAt).symm
  exact ⟨exists_mem_table_iff.2 (Or.inl hmem), hleftmost, w.rule.apply_eq_splice content,
    fun place n hfound => ((hleftmost _).1 rfl).exists_mem_of_found (Nat.zero_le place) hfound,
    fun rest hrest => apply_word_append hw hrest⟩

/-- White space of several bytes ends a tag, and so do bytes that encode no character; the word
itself does not. -/
theorem matches_iff_leftmost_golang :
    let word := Utf8.ofString "golang:"
    let content := word ++ [0xC2, 0xA0] ++ word ++ Utf8.ofString "golang:1" ++ [0xFF] ++ word ++
      Utf8.ofString "'"
    golangRule ∈ tagRules ∧
      Leftmost (fun place n => TaggedAt word (content.drop place) n) 0 [⟨9, 24⟩] ∧
      golangRule.rule.apply content =
        word ++ [0xC2, 0xA0] ++ Utf8.ofString "golang:1.20" ++ [0xFF] ++ word ++
          Utf8.ofString "'" := by
  intro word content
  have hmem : golangRule ∈ tagRules := by decide
  obtain ⟨-, hleftmost, happly, -, -⟩ := matches_iff_leftmost hmem content
  have hmatches : [⟨9, 24⟩] = golangRule.rule.expr.matches content := by decide +kernel
  refine ⟨hmem, (hleftmost _).1 hmatches, ?_⟩
  rw [happly, ← hmatches]
  decide +kernel

end TagRule

end Downstream.OpenShift
