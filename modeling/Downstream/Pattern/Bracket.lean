import Downstream.Pattern.Escape

/-!
# Bracketed sets

Sets in brackets hold characters, ranges, escapes, named ASCII sets and further sets, and combine
whole lists of these with `&&` (both), `--` (difference) and `~~` (either but not both), from left
to right. `bracket?` reads one. Beside the set it returns how deeply its parts nest.
-/

namespace Downstream.Pattern

open Unicode (CharSet)

/-- A set with the depth of its parts. -/
structure Nested where
  set : CharSet
  depth : Nat
  deriving Repr

/-- How two lists of items combine. -/
inductive Combination where
  | intersection
  | difference
  | symmetricDifference
  deriving Repr, DecidableEq

/-- The combination of two sets. -/
def Combination.apply : Combination → CharSet → CharSet → CharSet
  | intersection => .inter
  | difference => .diff
  | symmetricDifference => .symmDiff

/-- A bracket that is not closed yet. -/
structure OpenBracket where
  negated : Bool
  /-- The items since the bracket or the last operator, the last one first. -/
  items : List Nested
  /-- What stands before the last operator. -/
  left : Option (Nested × Combination)
  deriving Repr

namespace OpenBracket

/-- Adds an item. -/
def push (b : OpenBracket) (n : Nested) : OpenBracket :=
  { b with items := n :: b.items }

/-- The union of the items since the last operator. -/
def current (b : OpenBracket) : Nested :=
  match b.items with
  | [] => ⟨.empty, 0⟩
  | [n] => n
  | items => ⟨.unions (items.reverse.map (·.set)), items.foldl (fun d n => max d n.depth) 0 + 1⟩

/-- All that stands in the bracket so far. -/
def value (f : Flags) (b : OpenBracket) : Nested :=
  match b.left with
  | none => b.current
  | some (left, op) =>
    ⟨op.apply (f.foldCase left.set) (f.foldCase b.current.set), max left.depth b.current.depth + 1⟩

/-- Starts the list after an operator. -/
def operator (f : Flags) (b : OpenBracket) (op : Combination) : OpenBracket :=
  { b with items := [], left := some (b.value f, op) }

/-- The set of the bracket once it is closed. -/
def close (f : Flags) (b : OpenBracket) : Nested :=
  let inside := b.value f
  let set := f.foldCase inside.set
  ⟨if b.negated then .compl set else set, inside.depth + 1⟩

end OpenBracket

/-- Hyphens at the front of a bracket, which stand for themselves. -/
def leadingHyphens (f : Flags) : (fuel : Nat) → OpenBracket → List Char →
    OpenBracket × List Char
  | 0, b, s => (b, s)
  | fuel + 1, b, s =>
    match s with
    | '-' :: rest => leadingHyphens f fuel (b.push ⟨.single 0x2D, 0⟩) (f.skip rest)
    | _ => (b, s)

/-- Opens a bracket, given the text after `[`: a `^`, hyphens, and a `]` that comes first stands for
itself. -/
def openBracket? (f : Flags) (s : List Char) : Option (OpenBracket × List Char) :=
  let (negated, s) :=
    match f.skip s with
    | '^' :: rest => (true, f.skip rest)
    | s => (false, s)
  let (b, s) := leadingHyphens f (s.length + 1) ⟨negated, [], none⟩ s
  match s with
  | [] => none
  | ']' :: rest =>
    if b.items.isEmpty then
      match f.skip rest with
      | [] => none
      | rest => some (b.push ⟨.single 0x5D, 0⟩, rest)
    else some (b, s)
  | _ => some (b, s)

/-- A named ASCII set such as `[:alpha:]` or `[:^alpha:]`, given the text after its `[`. -/
def namedSet? (f : Flags) (s : List Char) : Option (CharSet × List Char) :=
  match s with
  | ':' :: rest =>
    let (negated, rest) :=
      match rest with
      | '^' :: rest => (true, rest)
      | rest => (false, rest)
    match rest.dropWhile (· != ':') with
    | ':' :: ']' :: after =>
      (namedAsciiSet? (String.ofList (rest.takeWhile (· != ':')))).map fun set =>
        let set := f.foldCase set
        (if negated then .compl set else set, after)
    | _ => none
  | _ => none

/-- One item of a bracket: an escape, or a character. -/
def bracketAtom? (f : Flags) (s : List Char) : Option (Atom × List Char) :=
  match s with
  | [] => none
  | '\\' :: rest => escape? f rest
  | c :: rest => some (.char c, rest)

/-- The code point or byte that stands as an end of a range or as an item of its own. When the
pattern is about bytes, characters above U+007F are not allowed. -/
def Atom.code? (f : Flags) : Atom → Option Nat
  | char c => if f.unicode || c.toNat ≤ 0x7F then some c.toNat else none
  | byte c => some c.toNat
  | set _ => none
  | look _ => none

/-- The set of an item that is no range. -/
def Atom.set? (f : Flags) : Atom → Option CharSet
  | set s => some s
  | a => (a.code? f).map .single

/-- The character after the next one that counts; a comment is looked into. -/
def peekAfter (f : Flags) (s : List Char) : Option Char :=
  if f.verbose then
    let rest := s.dropWhile Unicode.Property.isBlank
    match rest with
    | [] => s.head?
    | '#' :: inner =>
      match inner.dropWhile Unicode.Property.isBlank with
      | [] => s.head?
      | c :: _ => some c
    | c :: _ => some c
  else s.head?

/-- Reads an item or a range of a bracket. A hyphen before `]` or another hyphen makes no range. -/
def bracketItem? (f : Flags) (s : List Char) : Option (CharSet × List Char) := do
  let (first, rest) ← bracketAtom? f s
  match f.skip rest with
  | [] => none
  | '-' :: rest =>
    let next := peekAfter f rest
    if next = some ']' ∨ next = some '-' then
      return (← first.set? f, '-' :: rest)
    else
      match f.skip rest with
      | [] => none
      | rest =>
        let (last, rest) ← bracketAtom? f rest
        let first ← first.code? f
        let last ← last.code? f
        if first ≤ last then return (.ranges [(first, last)], rest) else none
  | rest => return (← first.set? f, rest)

/-- Reads the rest of a bracket: `b` is the innermost open bracket and `outer` are those around
it. -/
def bracketRest? (f : Flags) : (fuel : Nat) → (b : OpenBracket) → (outer : List OpenBracket) →
    List Char → Option (Nested × List Char)
  | 0, _, _, _ => none
  | fuel + 1, b, outer, s =>
    match f.skip s with
    | [] => none
    | '[' :: rest =>
      match namedSet? f rest with
      | some (set, rest) => bracketRest? f fuel (b.push ⟨set, 0⟩) outer rest
      | none => do
        let (inner, rest) ← openBracket? f rest
        bracketRest? f fuel inner (b :: outer) rest
    | ']' :: rest =>
      let closed := b.close f
      match outer with
      | [] => some (closed, rest)
      | around :: outer => bracketRest? f fuel (around.push closed) outer rest
    | '&' :: '&' :: rest => bracketRest? f fuel (b.operator f .intersection) outer rest
    | '-' :: '-' :: rest => bracketRest? f fuel (b.operator f .difference) outer rest
    | '~' :: '~' :: rest => bracketRest? f fuel (b.operator f .symmetricDifference) outer rest
    | s => do
      let (set, rest) ← bracketItem? f s
      bracketRest? f fuel (b.push ⟨set, 0⟩) outer rest

/-- Reads a bracketed set, given the text after its `[`. -/
def bracket? (f : Flags) (s : List Char) : Option (Nested × List Char) := do
  let (b, rest) ← openBracket? f s
  bracketRest? f (s.length + 1) b [] rest

end Downstream.Pattern
