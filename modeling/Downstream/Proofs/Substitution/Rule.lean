import Downstream.Proofs.Pattern.Scan
import Downstream.Substitution.Rule

/-!
# Rules as scans

Where the pattern of a rule only looks ahead, applying the rule is a scan (`Rule.apply_eq_replace`).
Rules that all leave a content as it is leave it so together (`applyRules_eq_self`), and rules that
commute can be applied in any order (`applyRules_perm`).
-/

namespace Downstream

open Pattern

variable {rules : List Rule} {content : Bytes}

/-- **Applying a rule is a scan**, if its matches are the hits of a scanner. -/
theorem Rule.apply_eq_replace {r : Rule} {s : Scanner} (h : s.Finds r.expr) (content : Bytes) :
    r.apply content = s.replace (Utf8.ofString r.replacement) content :=
  h.getD_replaceAll? _ content

/-- Applying a rule puts its replacement in place of its matches and keeps what is between them. -/
theorem Rule.apply_eq_splice (r : Rule) (content : Bytes) :
    r.apply content = splice (Utf8.ofString r.replacement) (r.expr.matches content) 0 content := by
  rw [Rule.apply, Rule.substituted?, Expr.replaceAll?]
  cases r.expr.matches content <;> rfl

@[simp] theorem applyRules_nil (content : Bytes) : applyRules [] content = content := rfl

@[simp] theorem applyRules_cons (r : Rule) (rules : List Rule) (content : Bytes) :
    applyRules (r :: rules) content = applyRules rules (r.apply content) := rfl

theorem applyRules_append (rules rules' : List Rule) (content : Bytes) :
    applyRules (rules ++ rules') content = applyRules rules' (applyRules rules content) :=
  List.foldl_append

/-- Rules that each leave a content as it is do so together. -/
theorem applyRules_eq_self (h : ∀ r ∈ rules, r.apply content = content) :
    applyRules rules content = content := by
  induction rules with
  | nil => rfl
  | cons r rules ih =>
    rw [applyRules_cons, h r List.mem_cons_self]
    exact ih fun r' hr' => h r' (List.mem_cons_of_mem r hr')

/-- Rules that commute with each other can be applied in any order. -/
theorem applyRules_perm {rules' : List Rule} (h : rules.Perm rules')
    (hcomm : ∀ r ∈ rules, ∀ r' ∈ rules, ∀ content, r'.apply (r.apply content) =
      r.apply (r'.apply content)) (content : Bytes) :
    applyRules rules content = applyRules rules' content :=
  h.foldl_eq' hcomm content

end Downstream
