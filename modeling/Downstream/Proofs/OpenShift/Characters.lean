import Downstream.Proofs.OpenShift.GoDirective
import Downstream.Proofs.OpenShift.TagScan
import Downstream.Proofs.Substitution.Matches
import Downstream.Proofs.Text.Boundary

/-!
# The built-in rules and characters

A built-in rule finds whole characters, in any bytes: a match starts with an ASCII character, and it
ends where the last character of a tag or the last digit of a version does. So no character is cut at
the start or the end of a match (`WholeCharacters`), and replacing matches makes texts of texts
(`applyRules_ofString`).
-/

namespace Downstream

open Pattern
open Utf8 (IsText Inside ofChars)

/-! ## Matches of whole characters -/

/-- Cutting out spans of whole characters leaves texts between them. -/
theorem Pattern.Rewritten.isText {r text out : Bytes} {place : Nat} {l : List Span}
    (h : Rewritten r text place l out) (hr : IsText r) (htext : IsText text)
    (hplace : ¬Inside text place)
    (hl : ∀ sp ∈ l, ¬Inside text sp.start ∧ ¬Inside text sp.stop) : IsText out := by
  induction h with
  | nil => exact (htext.cut hplace).2
  | cons _ _ _ ih =>
    obtain ⟨⟨hstart, hstop⟩, hrest⟩ := List.forall_mem_cons.1 hl
    exact ((htext.slice hplace hstart).append hr).append (ih hstop hrest)

/-- No match of a rule starts or ends inside a character, whatever the content. -/
def Rule.WholeCharacters (r : Rule) : Prop :=
  ∀ content, ∀ sp ∈ r.expr.matches content, ¬Inside content sp.start ∧ ¬Inside content sp.stop

/-- A rule that finds whole characters makes texts of texts. -/
theorem Rule.WholeCharacters.isText_apply {r : Rule} (h : r.WholeCharacters) {content : Bytes}
    (hcontent : IsText content) : IsText (r.apply content) := by
  have hstart : ¬Inside content 0 := fun ⟨first, _, _, hlt, _⟩ => Nat.not_lt_zero first hlt
  exact (r.rewritten_matches content).isText (Utf8.isText_ofString _) hcontent hstart (h content)

theorem isText_applyRules {rules : List Rule} (h : ∀ r ∈ rules, r.WholeCharacters)
    {content : Bytes} (hcontent : IsText content) : IsText (applyRules rules content) := by
  induction rules generalizing content with
  | nil => exact hcontent
  | cons r rules ih =>
    obtain ⟨hr, hrules⟩ := List.forall_mem_cons.1 h
    exact ih hrules (hr.isText_apply hcontent)

/-- A rule finds whole characters, if what it finds starts with an ASCII character and ends with
characters. -/
theorem wholeCharacters_of_finds {r : Rule} {s : Scanner} {front : Bytes} {p : Char → Bool}
    (hfinds : s.Finds r.expr) (hopens : s.Opens front) (hfront : Scanner.StartsAscii p front)
    (hends : ∀ {text n}, s.hit text = some n → ∃ u cs v,
      text = u ++ (ofChars cs ++ v) ∧ cs ≠ [] ∧ n = u.length + (ofChars cs).length) :
    r.WholeCharacters := by
  intro content sp hsp
  have hit := hfinds.hit_of_mem_matches hsp
  have hpos := s.pos hit
  obtain ⟨u, cs, v, htext, hne, hlen⟩ := hends hit
  constructor
  · obtain ⟨w, hw⟩ := hopens hit
    exact Utf8.not_inside_of_fresh (hw ▸ (hfront.append w).fresh)
  · rw [show sp.stop = sp.start + u.length + (ofChars cs).length by omega]
    exact Utf8.not_inside_of_eq_append htext hne

namespace OpenShift

open Unicode.Property (isWord)

/-! ## The built-in rules -/

theorem wholeCharacters_tagRule {w : TagRule} (hw : w ∈ tagRules) : w.rule.WholeCharacters := by
  have hall : ∀ w ∈ tagRules, Scanner.StartsAscii isTag (Utf8.ofString w.word) := by decide
  refine wholeCharacters_of_finds w.finds_scanner Scanner.opens_tagged (hall w hw) fun hit => ?_
  obtain ⟨behind, tag, rest, rfl, hrun, hne, hn⟩ := hit_tagged_iff_taggedAt.1 hit
  exact ⟨_, tag, rest, by rw [hrun.eq_append], hne, hn⟩

theorem wholeCharacters_goRule : goRule.WholeCharacters := by
  have hfront : Scanner.StartsAscii isWord goWord := by decide
  refine wholeCharacters_of_finds (r := goRule) finds_goVersion opens_goVersion hfront fun hit => ?_
  obtain ⟨behind, minor, rest, rfl, hrun, hminor, hrest⟩ := hit_goVersion_iff_goVersionAt.1 hit
  have hlen := length_ofChars_of_isDigits hrun.holds
  rcases hrest with ⟨k, ⟨behind', patch, rest', rfl, hrun', hne, -, rfl⟩, rfl⟩ | ⟨-, -, rfl⟩
  · refine ⟨goWord ++ (ofChars minor ++ [0x2E]), patch, rest', ?_, hne, ?_⟩
    · rw [hrun.eq_append, hrun'.eq_append]
      simp only [List.append_assoc, List.cons_append, List.nil_append]
    · rw [length_ofChars_of_isDigits hrun'.holds, List.length_append, List.length_append, hlen,
        List.length_singleton]
      omega
  · refine ⟨goWord, minor, rest, by rw [hrun.eq_append], ?_, by rw [hlen]⟩
    rintro rfl
    rcases hminor with hone | ⟨htwo, -⟩
    · cases hone
    · cases htwo

theorem wholeCharacters_of_mem_table {path : String} {rules : List Rule}
    (h : (path, rules) ∈ table.entries) : ∀ r ∈ rules, r.WholeCharacters :=
  forall_of_mem_table (fun _ => wholeCharacters_tagRule) wholeCharacters_goRule h

/-- **The rules of a file keep texts texts**: what they make of the encoding of a text is the encoding
of a text. And in any bytes, at every step, no match starts or ends inside a character. -/
theorem applyRules_ofString {path : String} {rules : List Rule}
    (h : (path, rules) ∈ table.entries) :
    (∀ s : String, ∃ s' : String, applyRules rules (Utf8.ofString s) = Utf8.ofString s') ∧
      ∀ r ∈ rules, ∀ content, ∀ sp ∈ r.expr.matches content,
        ¬Inside content sp.start ∧ ¬Inside content sp.stop := by
  have hwhole := wholeCharacters_of_mem_table h
  exact ⟨fun s => (isText_applyRules hwhole (Utf8.isText_ofString s)).exists_string, hwhole⟩

/-- The tag takes a letter of two bytes along as a whole, and leaves white space of three bytes, and
what is left of a letter that is cut off. -/
theorem applyRules_ofString_whole :
    let rules := imageRules.map TagRule.rule
    let content := Utf8.ofString "golang:ä\u2003" ++ [0xC3]
    (dockerfilePath, rules) ∈ table.entries ∧ golangRule.rule ∈ rules ∧
      ⟨0, 9⟩ ∈ golangRule.rule.expr.matches content ∧ ¬Inside content 0 ∧ ¬Inside content 9 ∧
      ∃ s, applyRules rules (Utf8.ofString "golang:ä\u2003ö") = Utf8.ofString s := by
  intro rules content
  have hmem : (dockerfilePath, rules) ∈ table.entries := by
    rw [entries_table]
    exact List.mem_cons_self
  have hgolang : golangRule.rule ∈ rules := List.mem_map_of_mem (by decide)
  have hsp : ⟨0, 9⟩ ∈ golangRule.rule.expr.matches content := by decide
  obtain ⟨htext, hinside⟩ := applyRules_ofString hmem
  obtain ⟨hstart, hstop⟩ := hinside _ hgolang _ _ hsp
  exact ⟨hmem, hgolang, hsp, hstart, hstop, htext _⟩

end OpenShift

end Downstream
