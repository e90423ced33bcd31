import Downstream.Cli.Report
import Downstream.Proofs.Substitution.Matches
import Downstream.Proofs.Substitution.Protocol
import Downstream.Proofs.Text.Digit

/-!
# The events of a substitution

What a run reports, for any file system whatever. `Reported` says which events the rules of a file
call for, given its content: one for each rule that matches somewhere in what the rules before it
left, whether that changes anything or not. `Told` says which events the calls of a run call for,
given their answers.

* Rules report what `Reported` says (`reported_ruleEvents`), and nothing else (`Reported.unique`).
* One file adds its events to those of the files after it, if it was rewritten; else they are the
  last ones (`substitute_told`). So a run tells its calls (`substituteAll_told`), by induction over
  the entries.
* Where rules report nothing, what is written is what was read (`Told.exists_of_write_mem`).
-/

namespace Downstream

open Pattern

variable {σ : Type} {path : String} {rules : List Rule} {content out out' : Bytes}
  {entries : List (String × List Rule)} {log : List Exchange} {events events' : List Event}

/-! ## One rule -/

/-- The pattern of a rule matches something somewhere in a content. -/
def Rule.Occurs (r : Rule) (content : Bytes) : Prop :=
  ∃ place ≤ content.length, ∃ d, r.expr.CanMatch (.ofOffset content place) d

theorem Rule.substituted?_eq_none_iff {r : Rule} :
    r.substituted? content = none ↔ ¬r.Occurs content := by
  have hmatches : r.substituted? content = none ↔ r.expr.matches content = [] := by
    rw [substituted?, Expr.replaceAll?]
    cases r.expr.matches content <;> simp
  have hunmatched :
      ¬r.Occurs content ↔ ∀ place ≤ content.length, r.expr.Unmatched content place := by
    simp only [Occurs, Expr.Unmatched, not_exists, not_and]
  rw [hmatches, hunmatched, eq_comm, ← Expr.successive_iff]
  constructor
  · intro h
    cases h with
    | nil unmatched => exact fun place hle => unmatched place (Nat.zero_le place) hle
  · exact fun h => .nil fun place _ hle => h place hle

/-! ## The rules of a file -/

/-- What rules report about a content, and what they make of it. -/
inductive Reported (path : String) : List Rule → Bytes → List Event → Bytes → Prop
  | nil {content : Bytes} : Reported path [] content [] content
  | matched {r : Rule} {rules : List Rule} {content : Bytes} {events : List Event} {out : Bytes}
    (occurs : r.Occurs content) (more : Reported path rules (r.apply content) events out) :
    Reported path (r :: rules) content (.applied path r.pattern r.replacement :: events) out
  | unmatched {r : Rule} {rules : List Rule} {content : Bytes} {events : List Event} {out : Bytes}
    (absent : ¬r.Occurs content) (more : Reported path rules content events out) :
    Reported path (r :: rules) content events out

/-- **The events of rules are those of the rules that match.** -/
theorem reported_ruleEvents (path : String) (rules : List Rule) (content : Bytes) :
    Reported path rules content (ruleEvents path rules content) (applyRules rules content) := by
  induction rules generalizing content with
  | nil => exact .nil
  | cons r rules ih =>
    cases hresult : r.substituted? content with
    | none =>
      have happly : r.apply content = content := by rw [Rule.apply, hresult, Option.getD_none]
      have hevents : ruleEvents path (r :: rules) content = ruleEvents path rules content := by
        simp [ruleEvents, ruleSteps, hresult]
      rw [hevents, applyRules_cons, happly]
      exact .unmatched (Rule.substituted?_eq_none_iff.1 hresult) (ih content)
    | some result =>
      have happly : r.apply content = result := by rw [Rule.apply, hresult, Option.getD_some]
      have hevents : ruleEvents path (r :: rules) content =
          .applied path r.pattern r.replacement :: ruleEvents path rules (r.apply content) := by
        simp [ruleEvents, ruleSteps, hresult, happly]
      have hoccurs : r.Occurs content := Classical.byContradiction fun habsent => by
        rw [Rule.substituted?_eq_none_iff.2 habsent] at hresult
        cases hresult
      rw [hevents, applyRules_cons]
      exact .matched hoccurs (ih (r.apply content))

/-- A rule is told also where its replacement is what stands there already. -/
example : ruleEvents "a" [⟨"x", .octet (.single 0x78), "x"⟩] (Utf8.ofString "yx") =
    [.applied "a" "x" "x"] := by
  decide

namespace Reported

theorem unique (h : Reported path rules content events out)
    (h' : Reported path rules content events' out') : events = events' := by
  induction h generalizing events' with
  | nil =>
    cases h' with
    | nil => rfl
  | matched occurs _ ih =>
    cases h' with
    | matched _ more => rw [ih more]
    | unmatched absent _ => exact absurd occurs absent
  | unmatched absent _ ih =>
    cases h' with
    | matched occurs _ => exact absurd occurs absent
    | unmatched _ more => exact ih more

/-- Rules that report nothing leave the content as it is. -/
theorem eq_of_nil (h : Reported path rules content [] out) : out = content := by
  generalize hevents : ([] : List Event) = events at h
  induction h with
  | nil => rfl
  | matched => cases hevents
  | unmatched _ _ ih => exact ih hevents

theorem eq_applied_of_mem (h : Reported path rules content events out) {x : Event}
    (hx : x ∈ events) :
    ∃ pattern replacement, x = .applied path pattern replacement := by
  induction h with
  | nil => cases hx
  | matched _ _ ih =>
    rcases List.mem_cons.1 hx with rfl | hx
    · exact ⟨_, _, rfl⟩
    · exact ih hx
  | unmatched _ _ ih => exact ih hx

end Reported

/-! ## A run -/

/-- The events that tell of the calls of a run over some entries. -/
inductive Told : List (String × List Rule) → List Exchange → List Event → Prop
  | done : Told [] [] []
  | unread {path : String} {rules : List Rule} {rest : List (String × List Rule)} (e : FileError) :
    Told ((path, rules) :: rest) [.read path (.error e)] []
  | unexamined {path : String} {rules : List Rule} {rest : List (String × List Rule)}
    (content : Bytes) (e : FileError) :
    Told ((path, rules) :: rest) [.read path (.ok content), .stat path (.error e)] []
  | unwritten {path : String} {rules : List Rule} {rest : List (String × List Rule)}
    {content out : Bytes} {events : List Event} (mode : Mode) (e : FileError)
    (reported : Reported path rules content events out) :
    Told ((path, rules) :: rest)
      [.read path (.ok content), .stat path (.ok mode), .write path out mode (.error e)] events
  | rewritten {path : String} {rules : List Rule} {rest : List (String × List Rule)}
    {content out : Bytes} {events events' : List Event} {log : List Exchange} (mode : Mode)
    (reported : Reported path rules content events out) (more : Told rest log events') :
    Told ((path, rules) :: rest)
      (.read path (.ok content) :: .stat path (.ok mode) :: .write path out mode (.ok ()) :: log)
      (events ++ .rewrote path mode :: events')

/-- What one file adds: its events come before those of the files after it if it was rewritten, and
else they are all there is. -/
theorem substitute_told (fs : FileSystem (StateM σ)) (path : String) (rules : List Rule) (s : σ)
    (log : List Exchange) :
    let run := substitute fs.recorded path rules (s, log)
    ∃ new, run.2.2 = log ++ new ∧
      match run.1.1 with
      | .error _ => ∀ rest, Told ((path, rules) :: rest) new run.1.2
      | .ok () => ∀ {rest more events}, Told rest more events →
        Told ((path, rules) :: rest) (new ++ more) (run.1.2 ++ events) := by
  rcases hread : fs.read path s with ⟨e | content, s₁⟩
  · simp only [substitute, bind, StateT.bind, FileSystem.recorded, hread]
    exact ⟨_, rfl, fun rest => .unread e⟩
  rcases hstat : fs.stat path s₁ with ⟨e | mode, s₂⟩
  · simp only [substitute, bind, StateT.bind, FileSystem.recorded, hread, hstat]
    exact ⟨_, List.append_assoc _ _ _, fun rest => .unexamined content e⟩
  have hreported := reported_ruleEvents path rules content
  have hlog : ∀ x : Exchange, log ++ [.read path (.ok content)] ++ [.stat path (.ok mode)] ++ [x] =
      log ++ [.read path (.ok content), .stat path (.ok mode), x] := by simp
  rcases hwrite : fs.write path (applyRules rules content) mode s₂ with ⟨e | _, s₃⟩ <;>
    simp only [substitute, bind, StateT.bind, FileSystem.recorded, hread, hstat, hwrite]
  · exact ⟨_, hlog _, fun rest => .unwritten mode e hreported⟩
  · refine ⟨_, hlog _, fun {rest more events} hmore => ?_⟩
    have hevents : ruleEvents path rules content ++ [.rewrote path mode] ++ events =
        ruleEvents path rules content ++ .rewrote path mode :: events := by simp
    change Told _ _ (ruleEvents path rules content ++ [.rewrote path mode] ++ events)
    rw [hevents]
    exact .rewritten mode hreported hmore

/-- **A run tells its calls**, file by file. -/
theorem substituteAll_told (fs : FileSystem (StateM σ)) (entries : List (String × List Rule))
    (s : σ) (log : List Exchange) :
    let run := substituteAll fs.recorded entries (s, log)
    ∃ new, run.2.2 = log ++ new ∧ Told entries new run.1.2 := by
  induction entries generalizing s log with
  | nil => exact ⟨[], (List.append_nil log).symm, .done⟩
  | cons e rest ih =>
    obtain ⟨path, rules⟩ := e
    obtain ⟨new, hlog, htold⟩ := substitute_told fs path rules s log
    rcases hfile : substitute fs.recorded path rules (s, log) with ⟨⟨e | _, events⟩, s', log'⟩ <;>
      rw [hfile] at hlog htold <;>
      simp only [substituteAll, bind, StateT.bind, hfile]
    · exact ⟨new, hlog, htold rest⟩
    · obtain ⟨more, hmore, hrest⟩ := ih s' log'
      refine ⟨new ++ more, ?_, htold hrest⟩
      rw [← List.append_assoc, ← show log' = log ++ new from hlog]
      exact hmore

namespace Told

/-- **The calls determine the events.** -/
theorem unique (h : Told entries log events) (h' : Told entries log events') :
    events = events' := by
  induction h generalizing events' with
  | done => cases h'; rfl
  | unread e => cases h'; rfl
  | unexamined content e => cases h'; rfl
  | unwritten mode e reported =>
    cases h' with
    | unwritten _ _ reported' => exact reported.unique reported'
  | rewritten mode reported _ ih =>
    cases h' with
    | rewritten _ reported' more' => rw [reported.unique reported', ih more']

/-- What is written is what was just read, if no rule for the file is reported. -/
theorem exists_of_write_mem (h : Told entries log events) {path : String} {content : Bytes}
    {mode : Mode} {answer : Except FileError Unit} (hw : .write path content mode answer ∈ log) :
    ∃ old, [.read path (.ok old), .stat path (.ok mode), .write path content mode answer] <:+: log ∧
      ((∀ pattern replacement, .applied path pattern replacement ∉ events) → content = old) := by
  have hsilent : ∀ {rules : List Rule} {old : Bytes} {reported : List Event},
      Reported path rules old reported content →
      (∀ pattern replacement, .applied path pattern replacement ∉ reported) → content = old := by
    intro rules old reported hreported hnone
    have hnil : reported = [] := by
      refine List.eq_nil_iff_forall_not_mem.2 fun x hx => ?_
      obtain ⟨pattern, replacement, rfl⟩ := hreported.eq_applied_of_mem hx
      exact hnone pattern replacement hx
    subst hnil
    exact hreported.eq_of_nil
  induction h with
  | done => cases hw
  | unread e => simp at hw
  | unexamined old e => simp at hw
  | unwritten mode e reported =>
    simp only [List.mem_cons, reduceCtorEq, false_or, List.not_mem_nil, or_false,
      Exchange.write.injEq] at hw
    obtain ⟨rfl, rfl, rfl, rfl⟩ := hw
    exact ⟨_, List.infix_rfl, hsilent reported⟩
  | @rewritten path' rules rest old out events events' log mode' reported _ ih =>
    simp only [List.mem_cons, reduceCtorEq, false_or, Exchange.write.injEq] at hw
    rcases hw with ⟨rfl, rfl, rfl, rfl⟩ | hw
    · refine ⟨_, (List.prefix_append _ log).isInfix, fun hnone => hsilent reported ?_⟩
      exact fun pattern replacement hx => hnone pattern replacement (List.mem_append_left _ hx)
    · obtain ⟨old, hinfix, hkept⟩ := ih hw
      refine ⟨old, hinfix.trans (List.suffix_append [_, _, _] log).isInfix, fun hnone => hkept ?_⟩
      exact fun pattern replacement hx => hnone pattern replacement
        (List.mem_append_right _ (List.mem_cons_of_mem _ hx))

end Told

/-! ## Permission bits in events -/

/-- Octal digits that spell a number, without a zero in front of others. -/
structure SpellsOctal (s : String) (n : Nat) : Prop where
  ne_empty : s ≠ ""
  digits : ∀ c ∈ s.toList, '0' ≤ c ∧ c ≤ '7'
  value : Nat.ofDigitChars 8 s.toList 0 = n
  front : s.toList.head? = some '0' → s = "0"

theorem spellsOctal_octal (mode : Mode) : SpellsOctal (octal mode) mode where
  ne_empty h := by
    have hnil : Nat.toDigits 8 mode = [] := by simpa [octal] using congrArg String.toList h
    exact Nat.toDigits_ne_nil hnil
  digits c hc := by
    have hall : ∀ d < 8, '0' ≤ Nat.digitChar d ∧ Nat.digitChar d ≤ '7' := by decide
    rw [octal, String.toList_ofList] at hc
    obtain ⟨d, hd, rfl⟩ := exists_digitChar_of_mem_toDigits (by decide) hc
    exact hall d hd
  value := by rw [octal, String.toList_ofList, Nat.ofDigitChars_toDigits (by decide) (by decide)]
  front h := by
    rw [octal, String.toList_ofList] at h
    by_cases hmode : mode = 0
    · subst hmode
      rfl
    · obtain ⟨c, ds, hds, hc⟩ := exists_toDigits_eq_cons (b := 8) (by decide) (by decide) hmode
      rw [hds, List.head?_cons, Option.some.injEq] at h
      exact absurd h hc

/-- What is told of a file that was rewritten has its permission bits in octal digits. -/
theorem line_rewrote (path : String) (mode : Mode) :
    (Event.rewrote path mode).line =
      "DEBUG rewrote file path=" ++ Quoted.text path ++ " mode=" ++ octal mode := by
  rw [← String.toList_inj]
  simp [Event.line, Event.level, Event.message]

/-- **The events of a run tell exactly what was done**, whatever the file system answers. The calls
and their answers determine them, file by file in the order of the table: none where reading or
examining failed, else one for each rule that matches in what the rules before it left, and then one
for the file if it was written; after a failure there are none. Where no rule for a file is told,
what was written is what was read. -/
theorem replaceImages_told (fs : FileSystem (StateM σ)) (t : Table) (s : σ) :
    let run := replaceImages fs.recorded t (s, [])
    let log := run.2.2
    let events := run.1.2
    (events = (replaceImages fs t s).1.2 ∧ run.2.1 = (replaceImages fs t s).2) ∧
      (∀ events', Told t.entries log events' ↔ events' = events) ∧
      (∀ path content mode answer, .write path content mode answer ∈ log →
        ∃ old,
          [.read path (.ok old), .stat path (.ok mode), .write path content mode answer] <:+: log ∧
          ((∀ pattern replacement, .applied path pattern replacement ∉ events) → content = old)) ∧
      ∀ path mode, ∃ digits, SpellsOctal digits mode ∧
        (Event.rewrote path mode).line =
          "DEBUG rewrote file path=" ++ Quoted.text path ++ " mode=" ++ digits := by
  intro run log events
  obtain ⟨new, hlog, htold⟩ := substituteAll_told fs t.entries s []
  obtain ⟨hanswer, hstate⟩ := replaceImages_unrecorded fs t s
  have htold : Told t.entries log events := by
    rw [show log = new from hlog]
    exact htold
  exact ⟨⟨congrArg Prod.snd hanswer, hstate⟩,
    fun _ => ⟨fun h => h.unique htold, fun h => h ▸ htold⟩,
    fun _ _ _ _ => htold.exists_of_write_mem,
    fun path mode => ⟨octal mode, spellsOctal_octal mode, line_rewrote path mode⟩⟩

end Downstream
