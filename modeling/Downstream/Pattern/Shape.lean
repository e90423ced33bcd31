import Downstream.Pattern.Form
import Downstream.Unicode.CharSet.Members

/-!
# The shape of a pattern

Forms that differ in trivial ways have one shape: a shape has its sets worked out to ranges, a set
of one member is a text, texts in a row are one text, a choice among single characters or among sets
is one set, and what all parts of a choice start with stands before the choice. `Form.shape` gives
the shape of a form; `Shape.concat`, `Shape.choice` and `Shape.repeated` keep to the rules.
-/

namespace Downstream.Pattern

open Unicode (CharSet Ranges)

/-- A form without trivial differences. -/
inductive Shape where
  | empty
  /-- Exactly these bytes, one at least. -/
  | text (bytes : Bytes)
  /-- One encoded character of a set. -/
  | scalars (set : Ranges)
  /-- One byte of a set. -/
  | octets (set : Ranges)
  | look (l : Look)
  | group (number : Nat) (a : Shape)
  | times (a : Shape) (least : Nat) (most : Option Nat) (greedy : Bool)
  /-- Two parts at least, none of them empty or in a row itself, and no two texts in a row. -/
  | seq (parts : List Shape)
  /-- Two parts at least, none of them a choice itself. -/
  | alt (parts : List Shape)
  deriving Repr, BEq

namespace Shape

/-! ## Sets -/

/-- Matches nothing. -/
def never : Shape :=
  octets []

/-- One character of a set. -/
def ofScalars : Ranges → Shape
  | [] => never
  | [(a, b)] => if a = b then text (Utf8.encode (Char.ofNat a)) else scalars [(a, b)]
  | set => scalars set

/-- One byte of a set. -/
def ofOctets : Ranges → Shape
  | [(a, b)] => if a = b then text [a.toUInt8] else octets [(a, b)]
  | set => octets set

/-! ## Parts in a row -/

/-- The parts of which a shape is a row. -/
def factors : Shape → List Shape
  | empty => []
  | seq parts => parts
  | a => [a]

/-- Puts a part before others, as one text if texts meet. -/
def consFactor (a : Shape) (rest : List Shape) : List Shape :=
  match a, rest with
  | text s, text t :: rest => text (s ++ t) :: rest
  | a, rest => a :: rest

/-- Parts in a row, which keep to the rules already. -/
def ofFactors : List Shape → Shape
  | [] => empty
  | [a] => a
  | parts => seq parts

/-- One part after the other. -/
def concat (parts : List Shape) : Shape :=
  ofFactors ((parts.flatMap factors).foldr consFactor [])

/-! ## Choices -/

/-- The parts among which a shape is a choice. -/
def choices : Shape → List Shape
  | alt parts => parts
  | a => [a]

/-- The character that is all of a text. -/
def character? : Shape → Option Nat
  | text s =>
    match Utf8.decode? s with
    | some (c, width) => if width = s.length then some c.toNat else none
    | none => none
  | _ => none

/-- The byte that is all of a text. -/
def byte? : Shape → Option Nat
  | text [b] => some b.toNat
  | _ => none

/-- The characters that a set stands for. -/
def scalars? : Shape → Option Ranges
  | scalars set => some set
  | octets set => if set.isAscii then some set else none
  | _ => none

/-- The bytes that a set stands for. -/
def octets? : Shape → Option Ranges
  | octets set => some set
  | scalars set => if set.isAscii then some set else none
  | _ => none

/-- The set that a choice among these parts is, if it is one. -/
def setOf? (parts : List Shape) : Option Shape :=
  match parts.mapM character? with
  | some cs => some (ofScalars (.ofCodePoints cs))
  | none =>
    match parts.mapM byte? with
    | some bs => some (ofOctets (.ofCodePoints bs))
    | none =>
      match parts.mapM scalars? with
      | some sets => some (ofScalars (sets.foldl Ranges.union []))
      | none => (parts.mapM octets?).map fun sets => ofOctets (sets.foldl Ranges.union [])

/-- How many parts two rows have in common from the start. -/
def commonLength : List Shape → List Shape → Nat
  | a :: as, b :: bs => if a == b then commonLength as bs + 1 else 0
  | _, _ => 0

/-- The parts in a row that a shape is, two at least. -/
def row? : Shape → Option (List Shape)
  | seq parts => some parts
  | _ => none

mutual

/-- The number of parts in a shape, of all levels. -/
def weight : Shape → Nat
  | group _ a => a.weight + 1
  | times a _ _ _ => a.weight + 1
  | seq parts => weights parts + 1
  | alt parts => weights parts + 1
  | _ => 1

/-- The number of parts in several shapes. -/
def weights : List Shape → Nat
  | [] => 0
  | a :: rest => a.weight + weights rest

end

/-- The first of several parts that matches. What all of them start with is put before the choice
among the rest, `fuel` times at most. -/
def choiceAux : (fuel : Nat) → List Shape → Shape
  | 0, parts => alt parts
  | fuel + 1, parts =>
    match parts.flatMap choices with
    | [] => never
    | [a] => a
    | a :: rest =>
      match setOf? (a :: rest) with
      | some set => set
      | none =>
        match a.row?, rest.mapM row? with
        | some row, some rows =>
          let n := rows.foldl (fun n other => min n (commonLength row other)) row.length
          if n = 0 then alt (a :: rest)
          else
            let tails := (row :: rows).map fun r => ofFactors (r.drop n)
            concat (row.take n ++ [choiceAux fuel tails])
        | _, _ => alt (a :: rest)

/-- The first of several parts that matches. Every step takes parts from the rows, so that there are
fewer steps than parts. -/
def choice (parts : List Shape) : Shape :=
  choiceAux (weights parts + 1) parts

/-! ## Repetitions -/

mutual

/-- Whether a shape matches the empty text only. -/
def onlyEmpty : Shape → Bool
  | empty => true
  | look _ => true
  | group _ a => a.onlyEmpty
  | times a _ most _ => most.isSome && a.onlyEmpty
  | seq parts => allOnlyEmpty parts
  | alt parts => allOnlyEmpty parts
  | _ => false

/-- Whether all shapes match the empty text only. -/
def allOnlyEmpty : List Shape → Bool
  | [] => true
  | a :: rest => a.onlyEmpty && allOnlyEmpty rest

end

/-- A part repeated. What matches the empty text only is taken once at most. -/
def repeated (a : Shape) (least : Nat) (most : Option Nat) (greedy : Bool) : Shape :=
  let once := a.onlyEmpty
  let least := if once then min least 1 else least
  let most := if once then some (min (most.getD 1) 1) else most
  if most = some 0 then empty
  else if least = 1 ∧ most = some 1 then a
  else times a least most greedy

/-! ## Facts about shapes -/

mutual

/-- The least number of characters and bytes that a match has; `none` if nothing matches. -/
def least? : Shape → Option Nat
  | empty => some 0
  | text s => some s.length
  | scalars set => if set.isEmpty then none else some 1
  | octets set => if set.isEmpty then none else some 1
  | look _ => some 0
  | group _ a => a.least?
  | times a least _ _ => a.least?.map (· * least)
  | seq parts => leastSum? parts
  | alt parts => leastOf? parts

/-- The sum of what the shapes have at least. -/
def leastSum? : List Shape → Option Nat
  | [] => some 0
  | a :: rest => do return (← a.least?) + (← leastSum? rest)

/-- The least of what the shapes have at least, if each of them has a match. -/
def leastOf? : List Shape → Option Nat
  | [] => none
  | [a] => a.least?
  | a :: rest => do return min (← a.least?) (← leastOf? rest)

end

mutual

/-- Whether every match stands next to a place where `l` holds: before it, or else after it. -/
def isBoundBy (l : Look) (before : Bool) : Shape → Bool
  | look k => k == l
  | group _ a => a.isBoundBy l before
  | times a least _ _ => least != 0 && a.isBoundBy l before
  | seq parts => if before then firstIsBoundBy l before parts else lastIsBoundBy l before parts
  | alt parts => allAreBoundBy l before parts
  | _ => false

/-- Whether this holds of parts in a row: of the first, or of later ones after parts that match the
empty text only. -/
def firstIsBoundBy (l : Look) (before : Bool) : List Shape → Bool
  | [] => false
  | a :: rest => a.isBoundBy l before || (a.onlyEmpty && firstIsBoundBy l before rest)

/-- Whether this holds of parts in a row: of the last, or of earlier ones before parts that match
the empty text only. -/
def lastIsBoundBy (l : Look) (before : Bool) : List Shape → Bool
  | [] => false
  | a :: rest =>
    lastIsBoundBy l before rest || (allOnlyEmpty rest && a.isBoundBy l before)

/-- Whether this holds of all parts. -/
def allAreBoundBy (l : Look) (before : Bool) : List Shape → Bool
  | [] => true
  | a :: rest => a.isBoundBy l before && allAreBoundBy l before rest

end

mutual

/-- Whether a shape looks at a place in a way that `p` tells. -/
def looks (p : Look → Bool) : Shape → Bool
  | look l => p l
  | group _ a => a.looks p
  | times a _ _ _ => a.looks p
  | seq parts => anyLooks p parts
  | alt parts => anyLooks p parts
  | _ => false

/-- Whether one of the shapes looks at a place in a way that `p` tells. -/
def anyLooks (p : Look → Bool) : List Shape → Bool
  | [] => false
  | a :: rest => a.looks p || anyLooks p rest

end

end Shape

namespace Form

mutual

/-- The shape of a form. -/
def shape : Form → Shape
  | empty => .empty
  | text bytes => if bytes.isEmpty then .empty else .text bytes
  | scalar set => .ofScalars set.scalars
  | octet set => .ofOctets set.octets
  | look l => .look l
  | group number a => .group number a.shape
  | times a least most greedy => a.shape.repeated least most greedy
  | seq parts => .concat (shapes parts)
  | alt parts => .choice (shapes parts)

/-- The shapes of forms. -/
def shapes : List Form → List Shape
  | [] => []
  | a :: rest => a.shape :: shapes rest

end

end Form

end Downstream.Pattern
