import Downstream.Proofs.OpenShift.Rules

/-!
# What the built-in rules leave behind

A content to which the rules of a file were applied, in order, is settled for each of them: no later
replacement, glued to what stands around it, makes up a word that an earlier rule would find.

* Nothing is left that a rule would change, and of most patterns no match at all
  (`settled_applyRules`).
* So applying the rules of a file again changes nothing (`applyRules_applyRules`).
-/

namespace Downstream.OpenShift

open Pattern
open Scanner (FitsTag KeepsTag Retag)

/-- The patterns that find their own replacements: they replace a tag, and keep the word before. -/
def pinnedPatterns : List String :=
  ["golang:" ++ tagPattern,
   "registry\\.access\\.redhat\\.com/ubi8/ubi-micro:" ++ tagPattern,
   "golang\\.org/x/net v" ++ tagPattern]

/-- A rule has nothing left to do in a content. -/
structure Settled (r : Rule) (content : Bytes) : Prop where
  unmatched : r.pattern ∉ pinnedPatterns → r.expr.matches content = []
  text_of_match : ∀ sp ∈ r.expr.matches content, sp.text content = Utf8.ofString r.replacement
  apply_eq : r.apply content = content

/-! ## Words with tags -/

/-- The word of a rule and its replacement do not overlap where they must not. -/
structure TagRule.Sound (w : TagRule) : Prop where
  fits : FitsTag isTag w.retag.word w.retag.replacement
  misses : w.rule.pattern ∉ pinnedPatterns → ¬Meets w.retag.word w.retag.replacement

instance (w : TagRule) : Decidable w.Sound :=
  decidable_of_iff (FitsTag isTag w.retag.word w.retag.replacement ∧
      (w.rule.pattern ∉ pinnedPatterns → ¬Meets w.retag.word w.retag.replacement))
    ⟨fun ⟨h, h'⟩ => ⟨h, h'⟩, fun ⟨h, h'⟩ => ⟨h, h'⟩⟩

theorem TagRule.Sound.settled {w : TagRule} (h : w.Sound) {content : Bytes}
    (hs : w.scanner.Settled (Utf8.ofString w.replacement) content) : Settled w.rule content where
  unmatched hp := w.finds_scanner.matches_eq_nil fun _ hu =>
    hs.hit_eq_none Scanner.opens_tagged (h.misses hp) hu
  text_of_match _ hsp := w.finds_scanner.text_of_mem_matches hs hsp
  apply_eq := (Rule.apply_eq_replace w.finds_scanner content).trans hs.replace_eq

/-- Rules for words leave a content settled for all of them, if none overlaps with an earlier
one. -/
theorem settled_map_rule {l : List TagRule} (hsound : ∀ w ∈ l, w.Sound)
    (hkeeps : (l.map TagRule.retag).Pairwise fun w v =>
      KeepsTag isTag v.word v.replacement w.word w.replacement) (content : Bytes) :
    ∀ r ∈ l.map TagRule.rule, Settled r (applyRules (l.map TagRule.rule) content) := by
  intro r hr
  obtain ⟨w, hw, rfl⟩ := List.mem_map.1 hr
  have hfits : ∀ v ∈ l.map TagRule.retag, FitsTag isTag v.word v.replacement := by
    intro v hv
    obtain ⟨w', hw', rfl⟩ := List.mem_map.1 hv
    exact (hsound w' hw').fits
  rw [TagRule.applyRules_map_rule]
  exact (hsound w hw).settled
    (Scanner.settled_replaceTags hfits hkeeps content _ (List.mem_map_of_mem hw))

/-! ## The version of Go -/

theorem matches_goExpr_replace (content : Bytes) :
    goExpr.matches (goVersion.replace goPinned content) = [] :=
  finds_goVersion.matches_eq_nil fun _ hu => hit_goVersion_of_suffix_replace hu

theorem settled_goRule (content : Bytes) :
    Settled goRule (goVersion.replace goPinned content) where
  unmatched _ := matches_goExpr_replace content
  text_of_match sp hsp := by
    rw [show goRule.expr = goExpr from rfl, matches_goExpr_replace] at hsp
    cases hsp
  apply_eq := by
    have hsettled : goVersion.Settled goPinned (goVersion.replace goPinned content) :=
      fun u hu n hn => by
        rw [hit_goVersion_of_suffix_replace hu] at hn
        cases hn
    rw [Rule.apply_eq_replace (r := goRule) finds_goVersion]
    exact hsettled.replace_eq

/-! ## The files -/

theorem settled_imageRules (content : Bytes) :
    ∀ r ∈ imageRules.map TagRule.rule,
      Settled r (applyRules (imageRules.map TagRule.rule) content) := by
  have hsound : ∀ w ∈ imageRules, w.Sound := by decide +kernel
  exact settled_map_rule hsound (by decide +kernel) content

theorem settled_proxyRule (content : Bytes) :
    ∀ r ∈ [proxyRule.rule], Settled r (applyRules [proxyRule.rule] content) := by
  have hsound : ∀ w ∈ [proxyRule], w.Sound := by decide +kernel
  exact settled_map_rule hsound (List.pairwise_singleton _ _) content

theorem settled_goRules (content : Bytes) :
    ∀ r ∈ [netRule.rule, goRule], Settled r (applyRules [netRule.rule, goRule] content) := by
  have hsound : netRule.Sound := by decide +kernel
  have hkeeps : KeepsTag isTag goWord goPinned netRule.retag.word netRule.retag.replacement := by
    decide +kernel
  have happly : applyRules [netRule.rule, goRule] content =
      goVersion.replace goPinned
        (netRule.scanner.replace netRule.retag.replacement content) := by
    rw [applyRules_cons, applyRules_cons, applyRules_nil,
      Rule.apply_eq_replace netRule.finds_scanner,
      Rule.apply_eq_replace (r := goRule) finds_goVersion]
    rfl
  rw [happly]
  intro r hr
  rcases List.mem_cons.1 hr with rfl | hr
  · exact hsound.settled
      ((hsound.fits.settled_replace content).replace_of_keepsTag opens_goVersion hkeeps hsound.fits)
  · obtain rfl := List.mem_singleton.1 hr
    exact settled_goRule _

/-- **The rules of a file leave its content settled for each of them.** -/
theorem settled_applyRules {path : String} {rules : List Rule} (h : (path, rules) ∈ table.entries)
    (content : Bytes) : ∀ r ∈ rules, Settled r (applyRules rules content) := by
  rw [entries_table] at h
  simp only [List.mem_cons, List.not_mem_nil, or_false, Prod.mk.injEq] at h
  obtain ⟨-, rfl⟩ | ⟨-, rfl⟩ | ⟨-, rfl⟩ := h
  · exact settled_imageRules content
  · exact settled_proxyRule content
  · exact settled_goRules content

/-- **No reference survives that a rule replaces.** After the rules of a file, the patterns that do
not find their own replacement have no match, every match of the others is the replacement byte for
byte, and no rule changes anything any more. -/
theorem matches_applyRules {path : String} {rules : List Rule} (h : (path, rules) ∈ table.entries)
    (content : Bytes) :
    let result := applyRules rules content
    (∀ r ∈ rules, r.pattern ∉ pinnedPatterns → r.expr.matches result = []) ∧
      (∀ r ∈ rules, ∀ sp ∈ r.expr.matches result,
        sp.text result = Utf8.ofString r.replacement) ∧
      ∀ r ∈ rules, r.apply result = result := by
  have hsettled := settled_applyRules h content
  exact ⟨fun r hr => (hsettled r hr).unmatched, fun r hr => (hsettled r hr).text_of_match,
    fun r hr => (hsettled r hr).apply_eq⟩

/-- A tag that holds the name of another image goes with its own image. -/
theorem matches_applyRules_nested_tag :
    let rules := imageRules.map TagRule.rule
    let result := Utf8.ofString "FROM golang:1.20"
    applyRules rules (Utf8.ofString "FROM golang:gcr.io/distroless/static:x") = result ∧
      ∀ r ∈ rules, r.apply result = result := by
  intro rules result
  have hmem : (dockerfilePath, rules) ∈ table.entries := by
    rw [entries_table]
    exact List.mem_cons_self
  have hresult :
      applyRules rules (Utf8.ofString "FROM golang:gcr.io/distroless/static:x") = result := by
    decide +kernel
  have hclean := matches_applyRules hmem (Utf8.ofString "FROM golang:gcr.io/distroless/static:x")
  rw [hresult] at hclean
  exact ⟨hresult, hclean.2.2⟩

/-- **Applying the rules of a file twice is applying them once.** -/
theorem applyRules_applyRules {path : String} {rules : List Rule}
    (h : (path, rules) ∈ table.entries) (content : Bytes) :
    applyRules rules (applyRules rules content) = applyRules rules content :=
  applyRules_eq_self fun r hr => (settled_applyRules h content r hr).apply_eq

end Downstream.OpenShift
