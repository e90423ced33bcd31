import Downstream.Dict
import Downstream.Substitution.Rule

/-!
# Substitution tables

A table lists, for some files, the rules that apply to them in order. Files are listed by their
paths as written, in ascending order; each path is listed once.
-/

namespace Downstream

/-- The rules of files, by path. -/
structure Table where
  entries : Dict String (List Rule) := []
  ordered : entries.Ordered := by exact List.Pairwise.nil

namespace Table

/-- The table without entries. -/
def empty : Table := {}

/-- Lists the rules of a path, replacing former ones. -/
def insert (t : Table) (path : String) (rules : List Rule) : Table where
  entries := Dict.insert path rules t.entries
  ordered :=
    Dict.ordered_insert (fun _ _ _ => String.lt_trans)
      (fun a b => by
        by_cases h : a < b
        · exact Or.inl h
        · by_cases h' : b < a
          · exact Or.inr (Or.inr h')
          · exact Or.inr (Or.inl (String.le_antisymm (String.not_lt.1 h') (String.not_lt.1 h))))
      path rules t.ordered

/-- The rules of a path; none if it is not listed. -/
def rulesFor (t : Table) (path : String) : List Rule :=
  (Dict.find? path t.entries).getD []

/-- The paths, in order. -/
def paths (t : Table) : List String :=
  Dict.keys t.entries

/-- The number of paths. -/
def size (t : Table) : Nat :=
  t.entries.length

/-- Whether no path is listed. -/
def isEmpty (t : Table) : Bool :=
  t.entries.isEmpty

/-- Compiles rules and lists them under a path; if a pattern is none, the table is lost to the
failure. -/
def insertCompiled (t : Table) (path : String) (pairs : List (String × String)) :
    Except SubstitutionError Table := do
  let rules ← Rule.compileAll pairs
  return t.insert path rules

end Table

end Downstream
