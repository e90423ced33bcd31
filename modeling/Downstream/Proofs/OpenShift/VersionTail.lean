import Downstream.Proofs.OpenShift.GoDirective

/-!
# What is left of a version of Go

The rule for the version of Go takes the patch version along only if no character of a word follows
it, and looks no further than the patch version. So a version that goes on behind its patch version is
not replaced as a whole: of `go 1.19.2rc1` the rule makes `go 1.20.2rc1`
(`dotDigitAt_behind_match_rc`). These are the only versions of which a dot and a digit are left
(`dotDigitAt_behind_match_iff`).
-/

namespace Downstream.OpenShift

open Pattern
open Unicode.Property (isWord)
open Utf8 (Ends IsRun)

/-- At the front of a text stand a dot and a digit, as in a version that goes on. -/
def DotDigitAt (text : Bytes) : Prop :=
  ∃ behind, text = 0x2E :: behind ∧ ¬Ends Char.isDigit behind

/-- Behind a minor version stands a patch version, and the version goes on behind it: with a character
of a word, or with another dot and digit. -/
def GoesOn (rest : Bytes) : Prop :=
  ∃ behind patch after, rest = 0x2E :: behind ∧ IsRun Char.isDigit behind patch after ∧ patch ≠ [] ∧
    (¬Ends isWord after ∨ DotDigitAt after)

variable {behind rest after : Bytes} {patch : List Char}

theorem not_ends_of_isRun (h : IsRun Char.isDigit behind patch after) (hne : patch ≠ []) :
    ¬Ends Char.isDigit behind := by
  rw [← Utf8.starts_eq_false_iff, h.starts_iff.2 hne]
  exact Bool.noConfusion

/-- What follows a patch version that belongs to a match is what follows the match. -/
theorem dotDigitAt_iff_of_patch (h : IsRun Char.isDigit behind patch after) (hne : patch ≠ [])
    (hword : Ends isWord after) : DotDigitAt after ↔ GoesOn (0x2E :: behind) := by
  constructor
  · exact fun hdot => ⟨behind, patch, after, rfl, h, hne, Or.inr hdot⟩
  · rintro ⟨behind', patch', after', heq, h', -, hafter⟩
    obtain rfl : behind = behind' := (List.cons.inj heq).2
    obtain rfl : after = after' := h.drop_run.symm.trans h'.drop_run
    exact hafter.resolve_left (not_not_intro hword)

/-- Where no patch version belongs to a match, one that is there goes on. -/
theorem dotDigitAt_iff_of_no_patch (h : ∀ k, ¬PatchAt rest k) : DotDigitAt rest ↔ GoesOn rest := by
  constructor
  · rintro ⟨behind, rfl, hdigit⟩
    obtain ⟨patch, after, hrun⟩ := Utf8.exists_isRun Char.isDigit behind
    have hne : patch ≠ [] := by
      rintro rfl
      refine hdigit (Utf8.starts_eq_false_iff.1 (eq_false_of_ne_true fun hs => ?_))
      exact absurd rfl (hrun.starts_iff.1 hs)
    have hword : ¬Ends isWord after := fun hends =>
      h _ ⟨behind, patch, after, rfl, hrun, hne, hends, rfl⟩
    exact ⟨behind, patch, after, rfl, hrun, hne, Or.inl hword⟩
  · rintro ⟨behind, patch, after, rfl, hrun, hne, -⟩
    exact ⟨behind, rfl, not_ends_of_isRun hrun hne⟩

/-- What follows a minor version in a text that starts with a version. -/
theorem drop_minor_add {minor : List Char} (h : IsRun Char.isDigit behind minor rest) (k : Nat) :
    (goWord ++ behind).drop (goWord.length + minor.length + k) = rest.drop k := by
  rw [Nat.add_assoc, ← List.drop_drop, List.drop_left, ← List.drop_drop,
    ← length_ofChars_of_isDigits h.holds, ← h.run_eq, h.drop_run]

/-- **A dot and a digit are left behind a match exactly if the version goes on behind its patch
version**: at the match stands `go 1.` with a minor version, and what follows that goes on. All other
versions are replaced as a whole. -/
theorem dotDigitAt_behind_match_iff {content : Bytes} {sp : Span}
    (hsp : sp ∈ goRule.expr.matches content) :
    ∃ behind minor rest, content.drop sp.start = goWord ++ behind ∧
      IsRun Char.isDigit behind minor rest ∧ IsMinor minor ∧
      (DotDigitAt (content.drop sp.stop) ↔ GoesOn rest) := by
  have hit := finds_goVersion.hit_of_mem_matches hsp
  have hpos := goVersion.pos hit
  have hstop : content.drop sp.stop = (content.drop sp.start).drop (sp.stop - sp.start) := by
    rw [List.drop_drop]
    congr 1
    omega
  obtain ⟨behind, minor, rest, htext, hrun, hminor, hrest⟩ := hit_goVersion_iff_goVersionAt.1 hit
  refine ⟨behind, minor, rest, htext, hrun, hminor, ?_⟩
  rw [hstop, htext]
  rcases hrest with ⟨k, ⟨behind', patch, after, rfl, hrun', hne, hword, rfl⟩, hn⟩ | ⟨hnone, -, hn⟩
  · rw [hn, drop_minor_add hrun, Nat.add_comm 1, List.drop_succ_cons,
      ← length_ofChars_of_isDigits hrun'.holds, ← hrun'.run_eq, hrun'.drop_run]
    exact dotDigitAt_iff_of_patch hrun' hne hword
  · rw [hn, ← Nat.add_zero (_ + _), drop_minor_add hrun, List.drop_zero]
    exact dotDigitAt_iff_of_no_patch hnone

/-- Of a version with four parts the last one is left; one with three parts is replaced as a
whole. -/
theorem dotDigitAt_behind_match_iff_parts :
    let content := Utf8.ofString "go 1.19.2.3 go 1.18.3"
    (⟨0, 9⟩ ∈ goRule.expr.matches content ∧ DotDigitAt (content.drop 9) ∧
      ∃ behind minor rest, content = goWord ++ behind ∧ IsRun Char.isDigit behind minor rest ∧
        IsMinor minor ∧ GoesOn rest) ∧
      ⟨12, 21⟩ ∈ goRule.expr.matches content ∧ ¬DotDigitAt (content.drop 21) ∧
      ∃ behind minor rest, content.drop 12 = goWord ++ behind ∧
        IsRun Char.isDigit behind minor rest ∧ IsMinor minor ∧ ¬GoesOn rest := by
  intro content
  have hfour : ⟨0, 9⟩ ∈ goRule.expr.matches content := by decide
  have hthree : ⟨12, 21⟩ ∈ goRule.expr.matches content := by decide
  have hdigit : ¬Ends Char.isDigit (Utf8.ofString "3 go 1.18.3") := by
    rw [← Utf8.starts_eq_false_iff]
    decide
  have hleft : DotDigitAt (content.drop 9) := ⟨_, rfl, hdigit⟩
  have hnone : ¬DotDigitAt (content.drop 21) := fun ⟨_, heq, _⟩ => by cases heq
  obtain ⟨behind, minor, rest, htext, hrun, hminor, hiff⟩ := dotDigitAt_behind_match_iff hfour
  obtain ⟨behind', minor', rest', htext', hrun', hminor', hiff'⟩ := dotDigitAt_behind_match_iff hthree
  exact ⟨⟨hfour, hleft, behind, minor, rest, htext, hrun, hminor, hiff.1 hleft⟩, hthree, hnone,
    behind', minor', rest', htext', hrun', hminor', fun hgoes => hnone (hiff'.2 hgoes)⟩

/-- Letters behind a patch version leave it where it was, attached to the new version. -/
theorem dotDigitAt_behind_match_rc :
    let content := Utf8.ofString "go 1.19.2rc1"
    goRule.expr.matches content = [⟨0, 7⟩] ∧ DotDigitAt (content.drop 7) ∧
      applyRules (table.rulesFor goModPath) content = Utf8.ofString "go 1.20.2rc1" := by
  intro content
  have hdigit : ¬Ends Char.isDigit (Utf8.ofString "2rc1") := by
    rw [← Utf8.starts_eq_false_iff]
    decide
  refine ⟨by decide, ⟨_, rfl, hdigit⟩, ?_⟩
  rw [rulesFor_goMod]
  decide

end Downstream.OpenShift
