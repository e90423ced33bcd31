import Downstream.Pattern.Expr

/-!
# Where a pattern matches

The preferred match of a pattern at every place of a text, found in one pass from the end of the
text to its start. At a place, each part of a pattern is asked where a match that goes through it
ends, given the answers at the later places; an `Outcome` says so as far as it can be said before
the answer of what follows the part *at the same place* is known. `Machine.step` takes all parts
over one byte, and `Expr.ends` collects the answers: for every place of the text the end of the
match that is preferred there. The pass takes one step of every part for every byte, whatever the
pattern.
-/

namespace Downstream.Pattern

open Unicode (CharSet)

/-- Where the preferred match ends, if there is one. -/
abbrev End := Option Nat

/-! ## Outcomes -/

/-- Where a match through some part of a pattern ends. -/
inductive Outcome where
  /-- It ends there, whatever follows the part at this place. -/
  | settled (e : End)
  /-- It ends where the match of what follows the part at this place ends; if that has none, it
  ends at `otherwise`. -/
  | deferred (otherwise : End)
  deriving Repr, DecidableEq

namespace Outcome

/-- The end of the match, if what follows at this place ends at `next`. -/
def resolve (o : Outcome) (next : End) : End :=
  match o with
  | settled e => e
  | deferred otherwise => next <|> otherwise

/-- The outcome of one part followed by another. -/
def andThen (a b : Outcome) : Outcome :=
  match a, b with
  | settled e, _ => settled e
  | deferred otherwise, settled e => settled (e <|> otherwise)
  | deferred otherwise, deferred e => deferred (e <|> otherwise)

/-- The outcome of preferring one part to another. -/
def orElse (a b : Outcome) : Outcome :=
  match a with
  | settled (some e) => settled (some e)
  | settled none => b
  | deferred otherwise => deferred (otherwise <|> b.resolve none)

theorem resolve_andThen (a b : Outcome) (next : End) :
    (a.andThen b).resolve next = a.resolve (b.resolve next) := by
  cases a <;> cases b <;> simp [andThen, resolve, Option.or_assoc, Option.orElse_eq_or]

theorem resolve_orElse (a b : Outcome) (next : End) :
    (a.orElse b).resolve next = (a.resolve next <|> b.resolve next) := by
  rcases a with (_ | e) | o <;> rcases b with f | p <;> cases next <;>
    simp [orElse, resolve, Option.orElse_eq_or]

end Outcome

/-! ## The pass over the text -/

/-- A pattern between two places: every part that consumes bytes holds the answers of what follows
it at the places to come. -/
inductive Machine where
  | empty
  /-- `nexts` are the answers one, two, three and four places on. -/
  | scalar (set : CharSet) (nexts : List End)
  /-- `next` is the answer one place on. -/
  | octet (set : CharSet) (next : End)
  | look (l : Look)
  | seq (a b : Machine)
  | alt (a b : Machine)
  | plus (greedy : Bool) (a : Machine)
  deriving Repr

namespace Machine

/-- A pattern behind the last place of a text, where nothing has an answer. -/
def ofExpr : Expr → Machine
  | .empty => empty
  | .scalar set => scalar set []
  | .octet set => octet set none
  | .look l => look l
  | .seq a b => seq (ofExpr a) (ofExpr b)
  | .alt a b => alt (ofExpr a) (ofExpr b)
  | .plus greedy a => plus greedy (ofExpr a)

/-- One place further to the front: the outcome at the place `c`, and, from the answer of what
follows the pattern there, the pattern before the place. -/
def step : Machine → Cursor → Outcome × (End → Machine)
  | empty, _ => (.deferred none, fun _ => empty)
  | scalar set nexts, c =>
    let e : End := do
      let (char, width) ← Utf8.decode? c.after
      if set.has char.toNat then (← nexts[width - 1]?) else none
    (.settled e, fun next => scalar set ((next :: nexts).take 4))
  | octet set next, c =>
    let e : End := do
      let b ← c.after.head?
      if set.has b.toNat then next else none
    (.settled e, fun next => octet set next)
  | look l, c => (if l.holds c then .deferred none else .settled none, fun _ => look l)
  | seq a b, c =>
    let (oa, fa) := a.step c
    let (ob, fb) := b.step c
    (oa.andThen ob, fun next => seq (fa (ob.resolve next)) (fb next))
  | alt a b, c =>
    let (oa, fa) := a.step c
    let (ob, fb) := b.step c
    (oa.orElse ob, fun next => alt (fa next) (fb next))
  | plus greedy a, c =>
    let (o, f) := a.step c
    -- After a round that consumed something: another such round, or what follows.
    (o, fun next =>
      let again := o.resolve none
      plus greedy (f (if greedy then again <|> next else next <|> again)))

end Machine

/-- The places of a text, the last one first; `acc` are the places before. -/
def Cursor.allAux (offset : Nat) (before : Bytes) : Bytes → List Cursor → List Cursor
  | [], acc => ⟨offset, before, []⟩ :: acc
  | b :: rest, acc => allAux (offset + 1) (b :: before) rest (⟨offset, before, b :: rest⟩ :: acc)

/-- The places of a text, the last one first. -/
def Cursor.all (text : Bytes) : List Cursor :=
  Cursor.allAux 0 [] text []

/-- The state of the pass: the pattern before the places seen, and the ends found at them. -/
structure Pass where
  machine : Machine
  ends : List End

/-- Takes the place `c` into the pass. -/
def Pass.extend (p : Pass) (c : Cursor) : Pass :=
  let (o, f) := p.machine.step c
  let here := some c.offset
  ⟨f here, o.resolve here :: p.ends⟩

/-- For every place of the text, the end of the match that is preferred there. -/
def Expr.ends (e : Expr) (text : Bytes) : List End :=
  ((Cursor.all text).foldl Pass.extend ⟨Machine.ofExpr e, []⟩).ends

end Downstream.Pattern
