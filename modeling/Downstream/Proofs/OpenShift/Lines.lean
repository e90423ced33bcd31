import Downstream.Proofs.OpenShift.TagScan
import Downstream.Proofs.Pattern.Lines

/-!
# The built-in rules and lines

What the rules of a file make of a line does not depend on the lines around it. A line end is in no
word, in no tag and in no version, and it ends a version just as the end of the text does: so each rule
is applied within lines (`inLines_of_mem_table`), and the rules of a file are applied line by line
(`lines_applyRules`).
-/

namespace Downstream.OpenShift

open Pattern
open Unicode.Property (isWord)

/-! ## Rules within lines -/

/-- What a rule finds stands in one line, and so does its replacement. -/
def InLines (r : Rule) : Prop :=
  newline ∉ Utf8.ofString r.replacement ∧ ∃ s : Scanner, s.Finds r.expr ∧ s.EndsWithLine

namespace InLines

variable {r : Rule}

theorem lineByLine_apply (h : InLines r) : LineByLine r.apply := by
  obtain ⟨hreplacement, s, hfinds, hs⟩ := h
  rw [show r.apply = _ from funext (Rule.apply_eq_replace hfinds)]
  exact hs.lineByLine hreplacement

theorem not_mem_text (h : InLines r) {content : Bytes} {sp : Span}
    (hsp : sp ∈ r.expr.matches content) : newline ∉ sp.text content := by
  obtain ⟨-, s, hfinds, hs⟩ := h
  exact hs.not_mem_take (hfinds.hit_of_mem_matches hsp)

end InLines

theorem lineByLine_applyRules {rules : List Rule} (h : ∀ r ∈ rules, InLines r) :
    LineByLine (applyRules rules) := by
  induction rules with
  | nil => exact .id
  | cons r rules ih =>
    obtain ⟨hr, hrules⟩ := List.forall_mem_cons.1 h
    exact (ih hrules).comp hr.lineByLine_apply

/-! ## The built-in rules -/

/-- A line end is for a version what the end of the text is. -/
theorem alike_newline (v : Bytes) : Alike (newline :: v) [] where
  fresh := ⟨Utf8.fresh_cons (by decide) v, Utf8.fresh_nil⟩
  digit := ⟨by rw [Utf8.starts, Utf8.decode?_ascii (by decide)]; rfl, rfl⟩
  dot := ⟨fun h => (by cases h), fun h => (by cases h)⟩
  word := by
    rw [Utf8.starts, Utf8.decode?_ascii (by decide)]
    decide

/-- Versions of Go are found within one line. -/
theorem endsWithLine_goVersion : goVersion.EndsWithLine := by
  intro u v
  have hword : newline ∉ goWord := by decide
  simp only [goVersion, Scanner.prefix_append_newline hword]
  by_cases hpre : goWord <+: u
  · obtain ⟨w, rfl⟩ := hpre
    have hversion := (alike_newline v).versionEnd_append w
    rw [List.append_nil] at hversion
    rw [List.append_assoc, List.drop_left, List.drop_left, hversion]
  · rw [if_neg hpre, if_neg hpre]

theorem inLines_goRule : InLines goRule :=
  ⟨by decide, goVersion, finds_goVersion, endsWithLine_goVersion⟩

theorem inLines_tagRule {w : TagRule} (hw : w ∈ tagRules) : InLines w.rule := by
  have hall : ∀ w ∈ tagRules,
      newline ∉ Utf8.ofString w.replacement ∧ newline ∉ Utf8.ofString w.word := by decide
  obtain ⟨hreplacement, hword⟩ := hall w hw
  have hblank : isTag '\n' = false := by decide
  exact ⟨hreplacement, w.scanner, w.finds_scanner, Scanner.endsWithLine_tagged hword hblank⟩

/-- **All built-in rules are applied within lines.** -/
theorem inLines_of_mem_table {path : String} {rules : List Rule}
    (h : (path, rules) ∈ table.entries) : ∀ r ∈ rules, InLines r :=
  forall_of_mem_table (fun _ => inLines_tagRule) inLines_goRule h

/-- **The rules of a file are applied line by line**, whatever bytes the lines have. The content
before a line end and the one behind it are changed each by itself, so the lines of the result are
what the rules make of the lines, as many as there were; and no match has a line end in it. -/
theorem lines_applyRules {path : String} {rules : List Rule} (h : (path, rules) ∈ table.entries)
    (content : Bytes) :
    (∀ a b, applyRules rules (a ++ newline :: b) =
        applyRules rules a ++ newline :: applyRules rules b) ∧
      lines (applyRules rules content) = (lines content).map (applyRules rules) ∧
      (lines (applyRules rules content)).length = (lines content).length ∧
      ∀ r ∈ rules, ∀ sp ∈ r.expr.matches content, newline ∉ sp.text content := by
  have hin := inLines_of_mem_table h
  have hlines := lineByLine_applyRules hin
  refine ⟨hlines.append, hlines.lines_eq content, ?_, fun r hr sp hsp => (hin r hr).not_mem_text hsp⟩
  rw [hlines.lines_eq, List.length_map]

/-- A version does not go on in the next line, and bytes of a character that is cut off by a line end
do not take the line end along. -/
theorem lines_applyRules_cut :
    let rules := [netRule.rule, goRule]
    let first := Utf8.ofString "golang.org/x/net v" ++ [0xE2, 0x80]
    let second := Utf8.ofString "go 1.1"
    let third := Utf8.ofString "9 golang.org/x/net v0.1"
    let content := second ++ newline :: third
    (goModPath, rules) ∈ table.entries ∧
      applyRules rules (first ++ newline :: content) =
        first ++ newline :: (Utf8.ofString "go 1.20" ++ newline ::
          Utf8.ofString "9 golang.org/x/net v0.17.0") ∧
      goRule ∈ rules ∧ ⟨0, 6⟩ ∈ goRule.expr.matches content ∧
      newline ∉ Span.text ⟨0, 6⟩ content := by
  intro rules first second third content
  have hmem : (goModPath, rules) ∈ table.entries := by
    rw [entries_table]
    exact List.mem_cons_of_mem _ (List.mem_cons_of_mem _ List.mem_cons_self)
  have hgo : goRule ∈ rules := List.mem_cons_of_mem _ List.mem_cons_self
  have hsp : ⟨0, 6⟩ ∈ goRule.expr.matches content := by decide
  obtain ⟨happend, -, -, hmatches⟩ := lines_applyRules hmem content
  refine ⟨hmem, ?_, hgo, hsp, hmatches _ hgo _ hsp⟩
  rw [happend, happend]
  decide

end Downstream.OpenShift
