import Downstream.Proofs.OpenShift.Rules
import Downstream.Proofs.Pattern.Apart

/-!
# The order of the rules for images

The tag of one image can hold the names of others, so that several rules compete for the same bytes.
Still it makes no difference in which order the rules of the file that images are built from are
applied (`applyRules_of_perm`): any two of them commute, as no name of an image, and nothing that is
put in place of one, overlaps with the name of another (`clears_of_ne`).
-/

namespace Downstream.OpenShift

open Pattern

theorem rulesFor_dockerfile : table.rulesFor dockerfilePath = imageRules.map TagRule.rule := by
  rw [Table.rulesFor, entries_table]
  rfl

/-- The names of images and their replacements have characters of tags only. -/
theorem inTags_of_mem {w : TagRule} (hw : w ∈ imageRules) : w.retag.InTags isTag := by
  have hall : ∀ w ∈ imageRules, w.retag.InTags isTag := by decide +kernel
  exact hall w hw

/-- No image overlaps with the name of another one. -/
theorem clears_of_ne {w v : TagRule} (hw : w ∈ imageRules) (hv : v ∈ imageRules) (hne : w ≠ v) :
    w.retag.Clears v.retag := by
  have hall : ∀ w ∈ imageRules, ∀ v ∈ imageRules, w ≠ v → w.retag.Clears v.retag := by
    decide +kernel
  exact hall w hw v hv hne

/-- **The rules of two images commute.** -/
theorem apply_comm {w v : TagRule} (hw : w ∈ imageRules) (hv : v ∈ imageRules) (content : Bytes) :
    v.rule.apply (w.rule.apply content) = w.rule.apply (v.rule.apply content) := by
  by_cases hwv : w = v
  · rw [hwv]
  · rw [Rule.apply_eq_replace w.finds_scanner, Rule.apply_eq_replace v.finds_scanner,
      Rule.apply_eq_replace v.finds_scanner, Rule.apply_eq_replace w.finds_scanner]
    exact Scanner.replace_comm (inTags_of_mem hw) (inTags_of_mem hv) (clears_of_ne hw hv hwv)
      (clears_of_ne hv hw (Ne.symm hwv)) content

/-- **The rules for images can be applied in any order**, to any bytes. -/
theorem applyRules_of_perm {rules : List Rule} (h : rules.Perm (table.rulesFor dockerfilePath))
    (content : Bytes) :
    applyRules rules content = applyRules (table.rulesFor dockerfilePath) content := by
  refine applyRules_perm h (fun r hr r' hr' => ?_) content
  rw [h.mem_iff, rulesFor_dockerfile] at hr hr'
  obtain ⟨w, hw, rfl⟩ := List.mem_map.1 hr
  obtain ⟨v, hv, rfl⟩ := List.mem_map.1 hr'
  exact apply_comm hw hv

/-- The image that is named first decides, also when its rule comes last. -/
theorem applyRules_of_perm_nested :
    let rules := (imageRules.map TagRule.rule).reverse
    let content := Utf8.ofString
      "FROM quay.io/operator-framework/helm-operator:golang:gcr.io/distroless/static:x golang:1"
    let result := Utf8.ofString
      "FROM registry.redhat.io/openshift4/ose-helm-operator:v4.14 golang:1.20"
    rules.Perm (table.rulesFor dockerfilePath) ∧ applyRules rules content = result ∧
      applyRules (table.rulesFor dockerfilePath) content = result := by
  intro rules content result
  have hperm : rules.Perm (table.rulesFor dockerfilePath) := by
    rw [rulesFor_dockerfile]
    exact List.reverse_perm _
  have hresult : applyRules rules content = result := by decide +kernel
  exact ⟨hperm, hresult, (applyRules_of_perm hperm content).symm.trans hresult⟩

end Downstream.OpenShift
