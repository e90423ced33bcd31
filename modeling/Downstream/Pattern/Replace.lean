import Downstream.Pattern.Search

/-!
# Matches one after the other

`Expr.matches` lists the matches of a pattern in a text: the leftmost one, then the leftmost one at
or after its end, and so on. An empty match exactly at the end of the match before it does not
count. `Expr.replaceAll` puts a replacement in place of each.
-/

namespace Downstream.Pattern

/-- A match: the bytes from `start` up to, but not including, `stop`. -/
structure Span where
  start : Nat
  stop : Nat
  deriving Repr, DecidableEq

/-- The matches among the places from `at` on, which end at `ends`. No match starts before `from`,
and no empty one at `last`, where the match before ended. -/
def spansFrom : (ends : List End) → (place start : Nat) → (last : Option Nat) → List Span
  | [], _, _, _ => []
  | e :: rest, place, start, last =>
    if place < start then spansFrom rest (place + 1) start last
    else
      match e with
      | none => spansFrom rest (place + 1) start last
      | some stop =>
        if stop = place ∧ last = some place then spansFrom rest (place + 1) start last
        else ⟨place, stop⟩ :: spansFrom rest (place + 1) stop (some stop)

/-- The matches of a pattern in a text, from left to right. -/
def Expr.matches (e : Expr) (text : Bytes) : List Span :=
  spansFrom (e.ends text) 0 0 none

/-- The text from `place` on, with `replacement` in place of each span. -/
def splice (replacement : Bytes) : (spans : List Span) → (place : Nat) → Bytes → Bytes
  | [], _, text => text
  | s :: spans, place, text =>
    text.take (s.start - place) ++ replacement ++
      splice replacement spans s.stop (text.drop (s.stop - place))

/-- The text with every match of the pattern replaced, `none` if there is no match. -/
def Expr.replaceAll? (e : Expr) (replacement text : Bytes) : Option Bytes :=
  match e.matches text with
  | [] => none
  | spans => some (splice replacement spans 0 text)

end Downstream.Pattern
