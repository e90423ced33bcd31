import Downstream.Pattern.Expr

/-!
# The form of a pattern

What is written in the text of a pattern: literals, sets, conditions, groups, repetitions, and parts
in a row or to choose from. `Form.expr` says what a form means.
-/

namespace Downstream.Pattern

open Unicode (CharSet)

/-- A pattern as it is written. -/
inductive Form where
  | empty
  /-- Exactly these bytes. -/
  | text (bytes : Bytes)
  /-- One encoded character of a set. -/
  | scalar (set : CharSet)
  /-- One byte of a set. -/
  | octet (set : CharSet)
  | look (l : Look)
  /-- A group with its number. -/
  | group (number : Nat) (a : Form)
  /-- `a` at least `least` times, and at most `most` times if that is given. -/
  | times (a : Form) (least : Nat) (most : Option Nat) (greedy : Bool)
  /-- One part after the other. -/
  | seq (parts : List Form)
  /-- The first part that matches. -/
  | alt (parts : List Form)
  deriving Repr

namespace Form

mutual

/-- What a form means. What matches only the empty text is taken once at most. -/
def expr : Form → Expr
  | empty => .empty
  | text bytes => .ofBytes bytes
  | scalar set => .scalar set
  | octet set => .octet set
  | look l => .look l
  | group _ a => a.expr
  | times a least most greedy =>
    let e := a.expr
    if e.onlyEmpty then e.times (min least 1) (some (min (most.getD 1) 1)) greedy
    else e.times least most greedy
  | seq parts => .concat (exprs parts)
  | alt parts => .choice (exprs parts)

/-- What forms mean. -/
def exprs : List Form → List Expr
  | [] => []
  | a :: rest => a.expr :: exprs rest

end

end Form

end Downstream.Pattern
