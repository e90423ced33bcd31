import Downstream.Pattern.Automaton.Basic
import Downstream.Text.Utf8

/-!
# The automaton for a choice among texts

A choice among texts is read along a tree, in which texts that start alike share the states of their
start. A text that ends at a node is preferred to the texts that go on there and were added later;
so the steps of a node lie in layers, and each end of a text at the node closes a layer.
-/

namespace Downstream.Pattern

/-- A tree of texts. -/
inductive Trie where
  /-- The layers that are closed, the last one first, and the one that is not. A layer has its steps
  with the trees that they lead to. -/
  | node (closed : List (List (UInt8 × Trie))) (current : List (UInt8 × Trie))
  deriving Repr

namespace Trie

/-- The tree without texts. -/
def empty : Trie :=
  node [] []

/-- Whether nothing goes on at the top of a tree. -/
def isLeaf : Trie → Bool
  | node closed current => closed.all List.isEmpty && current.isEmpty

/-- Closes the layer of a node, unless the node has one that is closed and nothing to add to it. -/
def close : Trie → Trie
  | node closed current =>
    if isLeaf (node closed current) && !closed.isEmpty then node closed current
    else node (current :: closed) []

/-- Changes the tree that the step over `b` leads to, which is made if it is not there. -/
def changeStep (change : Trie → Trie) (b : UInt8) : List (UInt8 × Trie) → List (UInt8 × Trie)
  | [] => [(b, change empty)]
  | (c, t) :: rest => if c = b then (c, change t) :: rest else (c, t) :: changeStep change b rest

/-- Adds a text. -/
def insert : Bytes → Trie → Trie
  | [], t => t.close
  | b :: rest, node closed current => node closed (changeStep (insert rest) b current)

/-- The tree of some texts. -/
def ofTexts (texts : List Bytes) : Trie :=
  texts.foldl (fun t s => t.insert s) empty

/-- Adds the state of a layer with this number of steps, if it has one. -/
def addLayer (steps : Nat) (t : Tally) : Tally :=
  match steps with
  | 0 => t
  | 1 => t.addState
  | steps => t.addChoice steps

mutual

/-- Adds the states of a tree: one for every layer that has steps, and one that forks to the layers
and, at the end of a layer that is closed, to the end, if these are several. -/
def tally : Trie → Tally → Tally
  | node closed current, t =>
    let t := layersTally closed t
    let t := addLayer current.length (stepsTally current t)
    let branches := closed.length + (current :: closed).countP fun layer => !layer.isEmpty
    if branches ≤ 1 then t else t.addFork branches

/-- Adds the states of layers. -/
def layersTally : List (List (UInt8 × Trie)) → Tally → Tally
  | [], t => t
  | layer :: rest, t => addLayer layer.length (stepsTally layer (layersTally rest t))

/-- Adds the states that steps lead to; where a text ends and none goes on, that is the end. -/
def stepsTally : List (UInt8 × Trie) → Tally → Tally
  | [], t => t
  | (_, next) :: rest, t => stepsTally rest (if next.isLeaf then t else next.tally t)

end

end Trie

end Downstream.Pattern
