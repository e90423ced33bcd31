/-!
# Events

What the program reports while it works, beside its result.
-/

namespace Downstream

/-- An event worth reporting. -/
inductive Event where
  /-- A rule replaced its matches in a file. -/
  | applied (path pattern replacement : String)
  /-- A file was written with these permission bits. -/
  | rewrote (path : String) (mode : Nat)
  /-- The project cannot hold settings of plugins, so none are recorded under this key. -/
  | markerSkipped (key : String)
  /-- All files of a table of this size are done. -/
  | finished (files : Nat)
  deriving Repr, DecidableEq

namespace Event

/-- How much an event matters. -/
inductive Level where
  | debug
  | info
  deriving Repr, DecidableEq

/-- How much this event matters. -/
def level : Event → Level
  | applied .. => .debug
  | rewrote .. => .debug
  | markerSkipped _ => .debug
  | finished _ => .info

/-- The text of an event. -/
def message : Event → String
  | applied .. => "applied substitution"
  | rewrote .. => "rewrote file"
  | markerSkipped _ => "project config has no plugin settings; skipping marker"
  | finished _ => "applied OpenShift image substitutions"

/-- The names of what an event tells, by which filters know it. -/
def fields : Event → List String
  | applied .. => ["message", "path", "pattern", "replacement"]
  | rewrote .. => ["message", "path", "mode"]
  | markerSkipped _ => ["message", "key"]
  | finished _ => ["message", "files"]

/-- The part of the program that reports an event, by which filters know it. -/
def origin : Event → String
  | applied .. => "ocp_scaffold::substitutions::applier"
  | rewrote .. => "ocp_scaffold::substitutions::applier"
  | markerSkipped _ => "ocp_scaffold::scaffold"
  | finished _ => "ocp_scaffold::scaffold"

end Event

/-- Permission bits in octal digits. -/
def octal (mode : Nat) : String :=
  String.ofList (Nat.toDigits 8 mode)

end Downstream
