import Downstream.Text.Utf8
import Downstream.Unicode.Property

/-!
# Patterns

A pattern is an expression over bytes. Its leaves match one encoded character, one byte, or nothing
at a place that looks right; `seq`, `alt` and `plus` combine them. Order means preference: `alt`
prefers its first part, and a greedy `plus` prefers another round.

A place in a text is a `Cursor`, which sees both sides: `Look.holds` decides the conditions on a
place (ends of the text and of lines, edges of words) with all of the text as context.
-/

namespace Downstream.Pattern

open Unicode (CharSet)

/-! ## Places in a text -/

/-- A place between two bytes of a text. -/
structure Cursor where
  /-- The number of bytes before the place. -/
  offset : Nat
  /-- The bytes before the place, the nearest first. -/
  before : Bytes
  /-- The bytes after the place. -/
  after : Bytes
  deriving Repr, DecidableEq

/-! ## Conditions on a place -/

/-- Conditions that compare the two sides of a place as parts of words. -/
inductive Edge where
  /-- A word on one side only. -/
  | boundary
  /-- A word on both sides or on neither. -/
  | interior
  /-- A word starts here. -/
  | start
  /-- A word ends here. -/
  | stop
  /-- No word before. -/
  | startHalf
  /-- No word after. -/
  | stopHalf
  deriving Repr, DecidableEq

/-- Conditions on a place, which consume nothing. -/
inductive Look where
  | textStart
  | textEnd
  /-- The start of a line; with `crlf` a carriage return ends a line too. -/
  | lineStart (crlf : Bool)
  /-- The end of a line; with `crlf` a carriage return ends a line too. -/
  | lineEnd (crlf : Bool)
  /-- An edge of words, over Unicode's or over ASCII's word characters. -/
  | word (unicode : Bool) (edge : Edge)
  deriving Repr, DecidableEq

/-- What stands on one side of a place. -/
inductive Side where
  /-- A character of words. -/
  | word
  /-- Another character, or the end of the text. -/
  | other
  /-- Bytes that encode no character. -/
  | broken
  deriving Repr, DecidableEq

/-- The bytes of words when only ASCII counts. -/
def isWordByte (b : UInt8) : Bool :=
  (0x30 ≤ b && b ≤ 0x39) || (0x41 ≤ b && b ≤ 0x5A) || b == 0x5F || (0x61 ≤ b && b ≤ 0x7A)

/-- The side of a place that starts with the decoded character `c?`. -/
def Side.ofChar (c? : Option Char) : Side :=
  match c? with
  | none => .broken
  | some c => if Unicode.Property.isWord c then .word else .other

/-- The side before a place. -/
def Cursor.sideBefore (unicode : Bool) (c : Cursor) : Side :=
  match c.before with
  | [] => .other
  | b :: _ =>
    if unicode then Side.ofChar (Utf8.decodeBefore? c.before)
    else if isWordByte b then .word else .other

/-- The side after a place. -/
def Cursor.sideAfter (unicode : Bool) (c : Cursor) : Side :=
  match c.after with
  | [] => .other
  | b :: _ =>
    if unicode then Side.ofChar ((Utf8.decode? c.after).map Prod.fst)
    else if isWordByte b then .word else .other

/-- Whether a place with these two sides is such an edge. The negative conditions do not hold next
to bytes that encode no character. -/
def Edge.holds (e : Edge) (before after : Side) : Bool :=
  match e with
  | boundary => (before == .word) != (after == .word)
  | interior =>
    before != .broken && after != .broken && (before == .word) == (after == .word)
  | start => before != .word && after == .word
  | stop => before == .word && after != .word
  | startHalf => before == .other
  | stopHalf => after == .other

/-- Whether a condition holds at a place. -/
def Look.holds (l : Look) (c : Cursor) : Bool :=
  match l with
  | textStart => c.before.isEmpty
  | textEnd => c.after.isEmpty
  | lineStart false => c.before.isEmpty || c.before.head? == some 0x0A
  | lineStart true =>
    c.before.isEmpty || c.before.head? == some 0x0A ||
      (c.before.head? == some 0x0D && c.after.head? != some 0x0A)
  | lineEnd false => c.after.isEmpty || c.after.head? == some 0x0A
  | lineEnd true =>
    c.after.isEmpty || c.after.head? == some 0x0D ||
      (c.after.head? == some 0x0A && c.before.head? != some 0x0D)
  | word unicode edge => edge.holds (c.sideBefore unicode) (c.sideAfter unicode)

/-! ## Expressions -/

/-- A pattern. -/
inductive Expr where
  /-- Matches the empty text. -/
  | empty
  /-- Matches one encoded character of a set. -/
  | scalar (set : CharSet)
  /-- Matches one byte of a set. -/
  | octet (set : CharSet)
  /-- Matches the empty text at places where the condition holds. -/
  | look (l : Look)
  /-- Matches `a`, then `b`. -/
  | seq (a b : Expr)
  /-- Matches `a`, or else `b`. -/
  | alt (a b : Expr)
  /-- Matches `a` once or more; when greedy, more is preferred. -/
  | plus (greedy : Bool) (a : Expr)
  deriving Repr, DecidableEq

namespace Expr

/-- Exactly these bytes. -/
def ofBytes : Bytes → Expr
  | [] => empty
  | [b] => octet (.single b.toNat)
  | b :: rest => seq (octet (.single b.toNat)) (ofBytes rest)

/-- One expression after the other. -/
def concat : List Expr → Expr
  | [] => empty
  | [a] => a
  | a :: rest => seq a (concat rest)

/-- The first of several expressions that matches. -/
def choice : List Expr → Expr
  | [] => empty
  | [a] => a
  | a :: rest => alt a (choice rest)

/-- `a` or nothing. -/
def opt (greedy : Bool) (a : Expr) : Expr :=
  if greedy then alt a empty else alt empty a

/-- `a` any number of times. -/
def star (greedy : Bool) (a : Expr) : Expr :=
  opt greedy (plus greedy a)

/-- `a` exactly `n` times, if `n` is not above `fuel`; the copies are put together by halves. -/
def powerAux (a : Expr) : (fuel n : Nat) → Expr
  | 0, _ => empty
  | fuel + 1, n =>
    if n = 0 then empty
    else if n = 1 then a
    else seq (powerAux a fuel (n / 2)) (powerAux a fuel (n - n / 2))

/-- `a` exactly `n` times. -/
def power (a : Expr) (n : Nat) : Expr :=
  powerAux a n n

/-- `a` at most `n` times, rather less. -/
def lazyUpTo (a : Expr) : Nat → Expr
  | 0 => empty
  | n + 1 => alt empty (seq a (lazyUpTo a n))

/-- `a` at most `n` times. To prefer more, it is enough to prefer `a` to nothing every time. -/
def upTo (greedy : Bool) (a : Expr) (n : Nat) : Expr :=
  if greedy then power (alt a empty) n else lazyUpTo a n

/-- `a` at least `least` times, and at most `most` times if that is given. -/
def times (a : Expr) (least : Nat) (most : Option Nat) (greedy : Bool) : Expr :=
  match most with
  | none => if least = 0 then star greedy a else seq (power a (least - 1)) (plus greedy a)
  | some most =>
    if most ≤ least then power a least else seq (power a least) (upTo greedy a (most - least))

/-- Whether an expression cannot match anything but the empty text, by its form. -/
def onlyEmpty : Expr → Bool
  | empty => true
  | scalar _ => false
  | octet _ => false
  | look _ => true
  | seq a b => a.onlyEmpty && b.onlyEmpty
  | alt a b => a.onlyEmpty && b.onlyEmpty
  | plus _ a => a.onlyEmpty

end Expr

end Downstream.Pattern
