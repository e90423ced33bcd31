import Downstream.Cli.Filter.Directive

/-!
# Which events are shown

A filter is a row of directives with commas between them. The program has no spans, so directives on
spans and on values of fields concern no event; each of the others is a criterion for events. The
most precise criterion that an event meets decides whether it is shown: the one with the longest
target, and among these the one with the last field in the order of names.
-/

namespace Downstream.Cli

/-- A threshold for the events whose origins start with a target, and which have a field. -/
structure Criterion where
  target : Option String := none
  field : Option String := none
  threshold : Threshold
  deriving Repr, DecidableEq

namespace Criterion

/-- The criterion for events that a directive is, if it is one. -/
def ofDirective? (d : Directive) : Option Criterion :=
  if d.span.isSome || d.field.any (·.hasValue) then none
  else some ⟨d.target, d.field.map (·.name), d.threshold⟩

/-- How much of an origin a criterion tells, more than nothing if it has a target. -/
def reach (c : Criterion) : Nat :=
  match c.target with
  | none => 0
  | some t => t.utf8ByteSize + 1

/-- Whether a criterion goes before another one. -/
def goesBefore (c d : Criterion) : Bool :=
  if c.reach = d.reach then
    match c.field, d.field with
    | some f, some g => g < f
    | some _, none => true
    | none, _ => false
  else d.reach < c.reach

/-- Whether the criteria are about the same events. -/
def concernsSame (c d : Criterion) : Bool :=
  c.target = d.target && c.field = d.field

/-- Whether an event meets a criterion. -/
def concerns (c : Criterion) (e : Event) : Bool :=
  (c.target.all fun t => t.toList.isPrefixOf e.origin.toList) &&
    c.field.all fun f => e.fields.contains f

end Criterion

/-- The criteria of a filter, the most precise one first. -/
abbrev Filter := List Criterion

namespace Filter

/-- Adds a criterion at its place. -/
def place (c : Criterion) : Filter → Filter
  | [] => [c]
  | d :: rest => if c.goesBefore d then c :: d :: rest else d :: place c rest

/-- Adds a criterion in place of a former one about the same events. -/
def add (f : Filter) (c : Criterion) : Filter :=
  place c (f.filter fun d => !d.concernsSame c)

/-- The filter of some directives; of none, it is one that shows errors. -/
def ofDirectives (ds : List Directive) : Filter :=
  if ds.isEmpty then [⟨none, none, .error⟩]
  else (ds.filterMap Criterion.ofDirective?).foldl add []

/-- The filter that a text is, `none` if a directive in it is none. -/
def ofText? (text : String) : Option Filter := do
  let texts := (parts ',' text.toList).filter fun t => !t.isEmpty
  return ofDirectives (← texts.mapM Directive.ofText?)

/-- The filter for all events of the program. -/
def program (t : Threshold) : Filter := [⟨some "ocp_scaffold", none, t⟩]

/-- The filter to use, given whether debugging was asked for and the filter that was set. -/
def choose (debug : Bool) (set : Option String) : Filter :=
  if debug then program .debug else (set.bind ofText?).getD (program .info)

/-- Whether an event is shown. -/
def shows (f : Filter) (e : Event) : Bool :=
  match f.find? fun c => c.concerns e with
  | some c => c.threshold.shows e.level
  | none => false

end Filter

end Downstream.Cli
