import Downstream.Pattern.Automaton.Character
import Downstream.Pattern.Automaton.Trie
import Downstream.Pattern.Shape

/-!
# The size of a pattern

A pattern is searched for by two automata, one that reads a text forward and one that reads it
backward, and neither may be larger than `Tally.limit`. `Shape.tally` counts the states for the
parts of a shape in the order in which they are made, with all repetitions written out.
-/

namespace Downstream.Pattern

/-- What has been made of an automaton: the states so far, and whether the last part ends in a fork,
to which a way to what follows has to be added. -/
structure Progress where
  tally : Tally
  openFork : Bool := false
  deriving Repr, DecidableEq

namespace Progress

/-- Connects the end of the last part to what follows it. -/
def link (p : Progress) : Tally :=
  if p.openFork then p.tally.addBranches 1 else p.tally

/-- Makes another part, which follows the last one. -/
def andThen (p : Progress) (part : Tally → Progress) : Progress :=
  let next := part p.tally
  ⟨link ⟨next.tally, p.openFork⟩, next.openFork⟩

/-- Makes a part `n` times, one copy after the other. It stops once the automaton is too large. -/
def copies (part : Tally → Progress) : (n : Nat) → Progress → Progress
  | 0, p => p
  | n + 1, p => if p.tally.fits then copies part n (p.andThen part) else p

/-- Makes a part that may be left out `n` times, one copy after the other: each has a fork before
it. It stops once the automaton is too large. -/
def optionalCopies (part : Tally → Progress) : (n : Nat) → Progress → Progress
  | 0, p => p
  | n + 1, p =>
    if p.tally.fits then
      optionalCopies part n (p.andThen fun t => part (t.addFork 2))
    else p

/-- Makes a part exactly `n` times. -/
def exactly (part : Tally → Progress) (n : Nat) (t : Tally) : Progress :=
  if n = 0 then ⟨t.addState, false⟩ else copies part n ⟨t, false⟩

/-- Makes a part with repetition. `mayBeEmpty` tells that it can match the empty text. -/
def repetition (part : Tally → Progress) (mayBeEmpty : Bool) (least : Nat) (most : Option Nat)
    (t : Tally) : Progress :=
  match least, most with
  | 0, some 1 => ⟨(part (t.addFork 2)).link.addState, false⟩
  | 0, none =>
    if mayBeEmpty then
      -- One fork goes round once more, and another one leaves the part out.
      ⟨(((part t).link.addFork 2).addFork 2).addState, false⟩
    else ⟨(part (t.addFork 1)).link, true⟩
  | 1, none => ⟨(part t).link.addFork 1, true⟩
  | least, none => ⟨((exactly part (least - 1) t).andThen part).link.addFork 1, true⟩
  | least, some most =>
    let before := exactly part least t
    if most ≤ least then before
    else
      ⟨(optionalCopies part (most - least) ⟨before.tally.addState, before.openFork⟩).link, false⟩

end Progress

namespace Shape

/-- The texts in a choice that is among texts only. -/
def texts? (parts : List Shape) : Option (List Bytes) :=
  parts.mapM fun
    | text s => some s
    | _ => none

mutual

/-- Adds the states of a shape. -/
def tally (backward : Bool) : Shape → Tally → Progress
  | empty, t => ⟨t.addState, false⟩
  | text s, t => ⟨t.addStates s.length, false⟩
  | scalars set, t => ⟨t.addCharacter backward set, false⟩
  | octets set, t => ⟨t.addByte set, false⟩
  | look _, t => ⟨t.addState, false⟩
  | group _ a, t =>
    if backward then a.tally backward t
    else ⟨(a.tally backward t.addState).link.addState, false⟩
  | times a least most _, t =>
    Progress.repetition (fun t => a.tally backward t) (a.least?.getD 0 == 0) least most t
  | seq parts, t => seqTally backward parts ⟨t, false⟩
  | alt parts, t =>
    match texts? parts with
    | some texts =>
      ⟨(Trie.ofTexts (if backward then texts.map List.reverse else texts)).tally t.addState, false⟩
    | none => ⟨altTally backward parts t 0, false⟩

/-- Adds the states of parts in a row, in the order in which they are read. -/
def seqTally (backward : Bool) : List Shape → Progress → Progress
  | [], p => p
  | a :: rest, p =>
    if backward then (seqTally backward rest p).andThen fun t => a.tally backward t
    else seqTally backward rest (p.andThen fun t => a.tally backward t)

/-- Adds the states of a choice, of which `n` parts are there: after the second one, a fork to the
parts and a state where they meet. -/
def altTally (backward : Bool) : List Shape → Tally → (n : Nat) → Tally
  | [], t, _ => t
  | a :: rest, t, n =>
    let t := (a.tally backward t).link
    let t := if n = 1 then (t.addFork 2).addState else if n = 0 then t else t.addBranches 1
    altTally backward rest t (n + 1)

end

/-- The states of an automaton for a shape: those to start at any place of a text, unless a match
can stand at its edge only, those of the parts, and the last one. Only when reading forward do
groups have states, and so has the whole. -/
def size (backward : Bool) (a : Shape) : Tally :=
  let atEdge := if backward then a.isBoundBy .textEnd false else a.isBoundBy .textStart true
  let start : Tally :=
    if atEdge then Tally.addState {} else ((Tally.addFork {} 2).addState.addChoice 1)
  if backward then (a.tally backward start).link.addState
  else (a.tally backward start.addState).link.addStates 2

/-- Whether the automata for a shape are not too large. -/
def fits (a : Shape) : Bool :=
  (a.size false).fits && (a.size true).fits

end Shape

end Downstream.Pattern
