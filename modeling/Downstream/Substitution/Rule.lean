import Downstream.Pattern.Reader
import Downstream.Pattern.Replace
import Downstream.Substitution.Error

/-!
# Substitution rules

A rule puts a fixed text in place of every match of a pattern. `Rule.substituted?` applies one rule,
and `applyRules` applies several, each to what the one before it left.
-/

namespace Downstream

/-- A pattern and what replaces its matches. -/
structure Rule where
  /-- The text of the pattern. -/
  pattern : String
  /-- What the pattern means. -/
  expr : Pattern.Expr
  /-- What replaces a match, as it stands. -/
  replacement : String
  deriving Repr, DecidableEq

namespace Rule

/-- The rule of a pattern and a replacement. -/
def compile (pattern replacement : String) : Except SubstitutionError Rule :=
  match Pattern.read? pattern with
  | some expr => .ok ⟨pattern, expr, replacement⟩
  | none => .error (.badPattern pattern)

/-- The rules of patterns and their replacements, in order; the first text that is no pattern makes
this fail. -/
def compileAll (pairs : List (String × String)) : Except SubstitutionError (List Rule) :=
  pairs.mapM fun (pattern, replacement) => compile pattern replacement

/-- The content with every match replaced, `none` if there is no match. -/
def substituted? (r : Rule) (content : Bytes) : Option Bytes :=
  r.expr.replaceAll? (Utf8.ofString r.replacement) content

/-- The content with every match replaced. -/
def apply (r : Rule) (content : Bytes) : Bytes :=
  (r.substituted? content).getD content

end Rule

/-- The content after all the rules, each applied to what the one before it left. -/
def applyRules (rules : List Rule) (content : Bytes) : Bytes :=
  rules.foldl (fun content r => r.apply content) content

/-- What each of the rules made of the content, `none` for a rule without a match. -/
def ruleSteps : List Rule → Bytes → List (Rule × Option Bytes)
  | [], _ => []
  | r :: rules, content =>
    let result := r.substituted? content
    (r, result) :: ruleSteps rules (result.getD content)

end Downstream
