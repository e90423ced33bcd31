import Downstream.Proofs.OpenShift.GoVersion
import Downstream.Proofs.Substitution.Rule
import Downstream.Substitution.OpenShift

/-!
# The built-in rules as scanners

All built-in rules but one replace a word with the tag behind it, the image names and the name of
the network library: a `TagRule` is such a word and its replacement. The other one replaces versions
of Go. `entries_table` reads the rules of the built-in table off the texts of their patterns.
-/

namespace Downstream.OpenShift

open Pattern
open Unicode (CharSet)

/-! ## Words with tags -/

/-- The characters of a tag: all but white space and quotes. -/
def tagSet : CharSet :=
  .compl (.union
    (.ranges [(0x9, 0xD), (0x20, 0x20), (0x85, 0x85), (0xA0, 0xA0), (0x1680, 0x1680),
      (0x2000, 0x200A), (0x2028, 0x2029), (0x202F, 0x202F), (0x205F, 0x205F), (0x3000, 0x3000)])
    (.union (.single 0x22) (.single 0x27)))

/-- Whether a character can be in a tag. -/
def isTag : Char → Bool :=
  Expr.member tagSet

/-- A word, and what is put in place of it and the tag behind it. -/
structure TagRule where
  word : String
  replacement : String
  deriving Repr, DecidableEq

namespace TagRule

/-- The text of the pattern for a word as it stands. -/
def escape (word : String) : String :=
  String.ofList (word.toList.flatMap fun c => if c = '.' then ['\\', '.'] else [c])

/-- The rule for a word and its tag. -/
def rule (w : TagRule) : Rule where
  pattern := escape w.word ++ tagPattern
  expr := .wordWithTag (Utf8.ofString w.word) tagSet
  replacement := w.replacement

/-- The word and its replacement as bytes. -/
def retag (w : TagRule) : Scanner.Retag :=
  ⟨Utf8.ofString w.word, Utf8.ofString w.replacement⟩

/-- What the rule finds. -/
def scanner (w : TagRule) : Scanner :=
  .tagged isTag (Utf8.ofString w.word)

theorem finds_scanner (w : TagRule) : w.scanner.Finds w.rule.expr :=
  Scanner.finds_tagged _ tagSet

/-- Applying rules for words is replacing the tags of these words. -/
theorem applyRules_map_rule (l : List TagRule) (content : Bytes) :
    applyRules (l.map rule) content = Scanner.replaceTags isTag (l.map retag) content := by
  induction l generalizing content with
  | nil => rfl
  | cons w l ih =>
    rw [List.map_cons, applyRules_cons, ih, Rule.apply_eq_replace w.finds_scanner]
    rfl

end TagRule

/-! ## The rules of the files -/

/-- The image of the authorization proxy. -/
def proxyRule : TagRule :=
  ⟨"gcr.io/kubebuilder/kube-rbac-proxy:",
    "registry.redhat.io/openshift4/ose-kube-rbac-proxy:v4.14"⟩

def ansibleRule : TagRule :=
  ⟨"quay.io/operator-framework/ansible-operator:",
    "registry.redhat.io/openshift4/ose-ansible-operator:v4.14"⟩

def helmRule : TagRule :=
  ⟨"quay.io/operator-framework/helm-operator:",
    "registry.redhat.io/openshift4/ose-helm-operator:v4.14"⟩

def distrolessRule : TagRule :=
  ⟨"gcr.io/distroless/static:", "registry.access.redhat.com/ubi8/ubi-minimal:8.8"⟩

def golangRule : TagRule :=
  ⟨"golang:", "golang:1.20"⟩

def ubiMicroRule : TagRule :=
  ⟨"registry.access.redhat.com/ubi8/ubi-micro:", "registry.access.redhat.com/ubi8/ubi-micro:8.8"⟩

/-- The images that operators are built on. -/
def imageRules : List TagRule :=
  [ansibleRule, helmRule, distrolessRule, golangRule, ubiMicroRule]

/-- The network library of Go. -/
def netRule : TagRule :=
  ⟨"golang.org/x/net v", "golang.org/x/net v0.17.0"⟩

/-- The version of Go. -/
def goRule : Rule where
  pattern := "go 1\\.1?[0-9](?:\\.[0-9]+)?\\b"
  expr := goExpr
  replacement := "go 1.20"

/-- **The rules of the built-in table.** -/
theorem entries_table : table.entries =
    [(dockerfilePath, imageRules.map TagRule.rule),
     (authProxyPatchPath, [proxyRule.rule]),
     (goModPath, [netRule.rule, goRule])] := by
  decide +kernel

end Downstream.OpenShift
