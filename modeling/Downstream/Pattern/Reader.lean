import Downstream.Number.Power
import Downstream.Pattern.Automaton.Bound
import Downstream.Pattern.Bracket
import Downstream.Unicode.Latest

/-!
# Reading patterns

`Form.read?` takes the text of a pattern for the form that it writes, or refuses it; besides
malformed text it refuses patterns whose parts nest deeper than `depthLimit`. `read?` gives the
meaning of the form, unless its automata would be too large.

Reading goes through the text once. A `Level` is a group that is still open: the alternatives that
are complete, and the parts of the one being read. Flags set inside a group end with it.
-/

namespace Downstream.Pattern

open Unicode (CharSet)

/-- How deeply the parts of a pattern may nest. -/
def depthLimit : Nat := 250

/-! ## Parts -/

/-- A part of a pattern that has been read. -/
structure Part where
  form : Form
  /-- How deeply its own parts nest. -/
  depth : Nat
  /-- Whether a repetition may follow. -/
  repeatable : Bool
  deriving Repr

namespace Part

/-- An item without parts. -/
def leaf (a : Form) : Part :=
  ⟨a, 0, true⟩

/-- The place of a flag group: it matches the empty text and cannot be repeated. -/
def flags : Part :=
  ⟨.empty, 0, false⟩

/-- A group of a part, with its number if it has one. -/
def group (number : Option Nat) (p : Part) : Part :=
  ⟨match number with
    | some n => .group n p.form
    | none => p.form, p.depth + 1, true⟩

/-- The greatest depth of several parts. -/
def maxDepth (parts : List Part) : Nat :=
  parts.foldl (fun d p => max d p.depth) 0

/-- One part after the other. -/
def concat (parts : List Part) : Part :=
  match parts with
  | [] => leaf .empty
  | [p] => p
  | parts => ⟨.seq (parts.map (·.form)), maxDepth parts + 1, true⟩

/-- One of several parts. -/
def choice (parts : List Part) : Part :=
  match parts with
  | [p] => p
  | parts => ⟨.alt (parts.map (·.form)), maxDepth parts + 1, true⟩

/-- A part repeated `least` to `most` times. -/
def times (p : Part) (least : Nat) (most : Option Nat) (greedy : Bool) : Part :=
  ⟨.times p.form least most greedy, p.depth + 1, true⟩

end Part

/-! ## Open groups -/

/-- A group that is not closed yet. -/
structure Level where
  /-- The flags outside of the group. -/
  outside : Flags
  /-- The number of the group, if it has one. -/
  number : Option Nat := none
  /-- The complete alternatives, the last one first. -/
  alternatives : List Part := []
  /-- The parts of the alternative being read, the last one first. -/
  parts : List Part := []
  deriving Repr

namespace Level

/-- Adds a part. -/
def push (l : Level) (p : Part) : Level :=
  { l with parts := p :: l.parts }

/-- Completes an alternative. -/
def bar (l : Level) : Level :=
  { l with alternatives := Part.concat l.parts.reverse :: l.alternatives, parts := [] }

/-- All of the group. -/
def value (l : Level) : Part :=
  .choice (l.bar.alternatives.reverse)

/-- Repeats the last part. -/
def repeat? (l : Level) (least : Nat) (most : Option Nat) (greedy : Bool) : Option Level :=
  match l.parts with
  | [] => none
  | p :: parts =>
    if p.repeatable then some { l with parts := p.times least most greedy :: parts } else none

end Level

/-- The state of reading. -/
structure Reading where
  /-- The flags in force. -/
  flags : Flags := {}
  /-- The innermost open group. -/
  level : Level := ⟨{}, none, [], []⟩
  /-- The open groups around it. -/
  around : List Level := []
  /-- The number of groups with a number so far. -/
  groups : Nat := 0
  /-- The names of groups so far. -/
  names : List (List Char) := []
  deriving Repr

/-! ## Groups -/

/-- Characters that a name of a group may start with. -/
def startsName (c : Char) : Bool :=
  c = '_' || Unicode.Latest.alphabetic.has c.toNat

/-- Characters that a name of a group may go on with. -/
def continuesName (c : Char) : Bool :=
  c = '_' || c = '.' || c = '[' || c = ']' || Unicode.Latest.alphanumeric.has c.toNat

/-- Reads the name of a group up to its `>`. -/
def groupName? (s : List Char) : Option (List Char × List Char) :=
  match s.takeWhile (· != '>'), s.dropWhile (· != '>') with
  | c :: name, '>' :: rest =>
    if startsName c && name.all continuesName then some (c :: name, rest) else none
  | _, _ => none

namespace Reading

/-- Starts a group without a number, whose inside has these flags. -/
def enter (r : Reading) (inside : Flags) : Reading :=
  { r with flags := inside, level := { outside := r.flags }, around := r.level :: r.around }

/-- Starts a group with a number. -/
def enterNumbered (r : Reading) : Reading :=
  { r with
    level := { outside := r.flags, number := some (r.groups + 1) }
    around := r.level :: r.around
    groups := r.groups + 1 }

/-- Ends the innermost group. -/
def leave? (r : Reading) : Option Reading :=
  match r.around with
  | [] => none
  | level :: around =>
    some { r with
      flags := r.level.outside
      level := level.push (r.level.value.group r.level.number)
      around := around }

/-- Starts a group with a name, which no other group may have. -/
def enterNamed? (r : Reading) (s : List Char) : Option (Reading × List Char) := do
  let (name, rest) ← groupName? s
  if r.names.contains name then none
  else return ({ r with names := name :: r.names }.enterNumbered, rest)

/-- Reads the start of a group, or flags that stay in force, given the text after `(`. -/
def open? (r : Reading) (s : List Char) : Option (Reading × List Char) :=
  match r.flags.skip s with
  | '?' :: '=' :: _ => none
  | '?' :: '!' :: _ => none
  | '?' :: '<' :: '=' :: _ => none
  | '?' :: '<' :: '!' :: _ => none
  | '?' :: 'P' :: '<' :: rest => r.enterNamed? rest
  | '?' :: '<' :: rest => r.enterNamed? rest
  | '?' :: rest =>
    let isLetter := fun c => c != ':' && c != ')'
    let letters := rest.takeWhile isLetter
    match r.flags.change? letters, rest.dropWhile isLetter with
    | some flags, ':' :: rest => some (r.enter flags, rest)
    | some flags, ')' :: rest =>
      if letters.isEmpty then none
      else some ({ r with flags := flags, level := r.level.push .flags }, rest)
    | _, _ => none
  | rest => some (r.enterNumbered, rest)

end Reading

/-! ## Repetitions -/

/-- Reads a decimal number with blanks around it, one digit at least and below 2^32. -/
def count? (f : Flags) (s : List Char) : Option Nat × List Char :=
  go (s.length + 1) [] (s.dropWhile Unicode.Property.isBlank)
where
  /-- Reads the digits, the last one first in `digits`, and the blanks after them. -/
  go : (fuel : Nat) → (digits : List Nat) → List Char → Option Nat × List Char
    | 0, _, s => (none, s)
    | fuel + 1, digits, s =>
      match s with
      | c :: rest =>
        if c.isDigit then go fuel ((c.toNat - 0x30) :: digits) (f.skip rest)
        else
          let n := digits.foldr (fun d n => n * 10 + d) 0
          (if digits.isEmpty ∨ twoTo 32 ≤ n then none else some n, trailing fuel s)
      | [] => (none, [])
  /-- Skips blanks, and what does not count after each. -/
  trailing : (fuel : Nat) → List Char → List Char
    | 0, s => s
    | fuel + 1, s =>
      match s with
      | c :: rest => if Unicode.Property.isBlank c then trailing fuel (f.skip rest) else s
      | [] => []

/-- Reads the bounds of a repetition, given the text after the opening brace, up to and with the
closing one. -/
def bounds? (f : Flags) (s : List Char) : Option ((Nat × Option Nat) × List Char) :=
  match count? f (f.skip s) with
  | (least, '\x7d' :: rest) => do
    let n ← least
    return ((n, some n), rest)
  | (least, ',' :: rest) =>
    match f.skip rest with
    | '\x7d' :: rest => do
      let least ← least
      return ((least, none), rest)
    | rest =>
      match count? f rest with
      | (most, '\x7d' :: rest) => do
        let least ← least
        let most ← most
        if least ≤ most then return ((least, some most), rest) else none
      | _ => none
  | _ => none

/-- Reads a `?` that makes a repetition lazy. -/
def lazyMark (s : List Char) : Bool × List Char :=
  match s with
  | '?' :: rest => (true, rest)
  | _ => (false, s)

/-- Repeats the last part by an operator without bounds of its own. -/
def Reading.repeat? (r : Reading) (least : Nat) (most : Option Nat) (s : List Char) :
    Option (Reading × List Char) := do
  let (isLazy, rest) := lazyMark s
  let level ← r.level.repeat? least most (r.flags.greedy isLazy)
  return ({ r with level := level }, rest)

/-! ## All of a pattern -/

/-- Reads one item of a pattern: `c` is its first character and `rest` the text after it. -/
def Reading.item? (r : Reading) (c : Char) (rest : List Char) : Option (Reading × List Char) :=
  let push (a : Form) (rest : List Char) : Option (Reading × List Char) :=
    some ({ r with level := r.level.push (.leaf a) }, rest)
  match c with
  | '(' => r.open? rest
  | ')' => r.leave?.map (·, rest)
  | '|' => some ({ r with level := r.level.bar }, rest)
  | '[' => do
    let (n, rest) ← bracket? r.flags rest
    return ({ r with level := r.level.push ⟨r.flags.oneOf n.set, n.depth, true⟩ }, rest)
  | '?' => r.repeat? 0 (some 1) rest
  | '*' => r.repeat? 0 none rest
  | '+' => r.repeat? 1 none rest
  | '\x7b' => do
    let ((least, most), rest) ← bounds? r.flags rest
    r.repeat? least most (r.flags.skip rest)
  | '\\' => do
    let (atom, rest) ← escape? r.flags rest
    push (atom.form r.flags) rest
  | '.' => push r.flags.dot rest
  | '^' => push r.flags.caret rest
  | '$' => push r.flags.dollar rest
  | c => push (r.flags.literal c) rest

/-- Reads items up to the end of the text. -/
def Reading.items? : (fuel : Nat) → Reading → List Char → Option Reading
  | 0, _, _ => none
  | fuel + 1, r, s =>
    match r.flags.skip s with
    | [] => some r
    | c :: rest =>
      match r.item? c rest with
      | some (r, rest) => items? fuel r rest
      | none => none

/-- The form that the text of a pattern writes, `none` if it is no pattern. -/
def Form.read? (s : String) : Option Form := do
  let r ← Reading.items? (s.toList.length + 1) {} s.toList
  if r.around.isEmpty then
    let p := r.level.value
    if p.depth ≤ depthLimit then return p.form else none
  else none

/-- What the text of a pattern means, `none` if it is no pattern. -/
def read? (s : String) : Option Expr := do
  let a ← Form.read? s
  if a.fits then return a.expr else none

end Downstream.Pattern
