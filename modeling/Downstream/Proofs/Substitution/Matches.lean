import Downstream.Proofs.Pattern.Successive
import Downstream.Proofs.Substitution.Rule

/-!
# What applying a rule does

A rule can have any pattern: one that matches the empty text, or one that looks at what stands before
a place. Whatever it is, applying the rule replaces the matches that are found one after the other,
and nothing else (`Rule.rewritten_apply`).
-/

namespace Downstream

open Pattern

/-- The matches that one pass finds are replaced, and what is between them is kept. -/
theorem Rule.rewritten_matches (r : Rule) (content : Bytes) :
    Rewritten (Utf8.ofString r.replacement) content 0 (r.expr.matches content) (r.apply content) := by
  rw [r.apply_eq_splice]
  exact (Expr.successive_iff.2 rfl).rewritten _ (Nat.le_refl 0) (Nat.zero_le _)

/-- **Applying a rule replaces the matches of its pattern that are found one after the other.** They
are determined by the content, there are only so many, and they are in order and apart; the
replacement is put in place of each as it stands, and what is between them is kept. It is told
whether there was a match, not whether anything was changed. -/
theorem Rule.rewritten_apply (r : Rule) (content : Bytes) :
    ∃ l : List Span,
      (∀ l', r.expr.Successive content 0 none l' ↔ l' = l) ∧
      l.length ≤ content.length + 1 ∧
      (l.Pairwise fun sp sp' => sp.stop ≤ sp'.start) ∧
      Rewritten (Utf8.ofString r.replacement) content 0 l (r.apply content) ∧
      r.substituted? content = if l = [] then none else some (r.apply content) := by
  have hmatches : r.expr.Successive content 0 none (r.expr.matches content) :=
    Expr.successive_iff.2 rfl
  have hrewritten := r.rewritten_matches content
  refine ⟨_, fun _ => Expr.successive_iff, hmatches.length_le (Nat.zero_le _),
    hrewritten.pairwise, hrewritten, ?_⟩
  rw [r.apply_eq_splice, substituted?, Expr.replaceAll?]
  cases r.expr.matches content <;> rfl

/-- An empty match counts also between the bytes of a character, but not right behind another
match. -/
example : (Rule.compile "a*" "$0").toOption.map (fun r => r.apply (Utf8.ofString "baaé")) =
    some (Utf8.ofString "$0b$0" ++ [0xC3] ++ Utf8.ofString "$0" ++ [0xA9] ++ Utf8.ofString "$0") := by
  decide +kernel

end Downstream
