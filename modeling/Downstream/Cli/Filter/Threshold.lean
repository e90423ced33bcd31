import Downstream.Log
import Downstream.Text.Digit

/-!
# Thresholds

How much of the events is shown: a threshold has a name and a number.
-/

namespace Downstream.Cli

/-- How much of the events is shown. -/
inductive Threshold where
  | off
  | error
  | warn
  | info
  | debug
  | trace
  deriving Repr, DecidableEq

namespace Threshold

/-- Thresholds from nothing to everything. -/
def all : List (String × Threshold) :=
  [("off", off), ("error", error), ("warn", warn), ("info", info), ("debug", debug),
    ("trace", trace)]

/-- Whether events of a level are shown. -/
def shows : Threshold → Event.Level → Bool
  | debug, _ => true
  | trace, _ => true
  | info, level => level = .info
  | _, _ => false

/-- The threshold of a number, up to five. -/
def ofNumber? (digits : List Char) : Option Threshold :=
  if digits.isEmpty || !digits.all (isDigit 10) then none
  else (all[number 10 digits]?).map Prod.snd

/-- The threshold of a name in letters of either case, or of a number, before which a plus sign may
stand. -/
def ofText? (s : List Char) : Option Threshold :=
  let digits := match s with
    | '+' :: rest => rest
    | s => s
  match ofNumber? digits with
  | some t => some t
  | none => (all.find? fun e => e.1.toList = s.map Char.toLower).map Prod.snd

end Threshold

end Downstream.Cli
