import Downstream.Text.Split

/-!
# Paths

A path is compared by its components: repeated and trailing slashes do not count, nor does a `.`
except at the front of a relative path, while a leading `/` and every `..` do. `components` takes a
path apart, and the order of components puts `/` first, then `.`, then `..`, then names by their
bytes. `join` puts a path below another one, as it is written.
-/

namespace Downstream.Path

/-- A component of a path. -/
inductive Component where
  /-- The leading slash of an absolute path. -/
  | root
  /-- A leading `.`. -/
  | here
  /-- `..`. -/
  | parent
  | name (s : String)
  deriving Repr, DecidableEq

namespace Component

/-- The place of the kinds of components in the order, and the name if there is one. -/
def rank : Component → Nat × String
  | root => (0, "")
  | here => (1, "")
  | parent => (2, "")
  | name s => (3, s)

/-- The order of components. -/
def Before (a b : Component) : Prop :=
  a.rank.1 < b.rank.1 ∨ (a.rank.1 = b.rank.1 ∧ a.rank.2 < b.rank.2)

instance : LT Component := ⟨Before⟩

instance : DecidableLT Component := fun a b =>
  inferInstanceAs (Decidable (a.rank.1 < b.rank.1 ∨ (a.rank.1 = b.rank.1 ∧ a.rank.2 < b.rank.2)))

theorem rank_injective {a b : Component} (h : a.rank = b.rank) : a = b := by
  cases a <;> cases b <;> simp_all [rank]

theorem lt_trans {a b c : Component} (hab : a < b) (hbc : b < c) : a < c := by
  change Before a b at hab
  change Before b c at hbc
  change Before a c
  rcases hab with h1 | ⟨h1, h1'⟩ <;> rcases hbc with h2 | ⟨h2, h2'⟩
  · exact Or.inl (Nat.lt_trans h1 h2)
  · exact Or.inl (by omega)
  · exact Or.inl (by omega)
  · exact Or.inr ⟨h1.trans h2, String.lt_trans h1' h2'⟩

theorem lt_irrefl (a : Component) : ¬a < a := by
  intro h
  change Before a a at h
  rcases h with h | ⟨-, h⟩
  · exact Nat.lt_irrefl _ h
  · exact String.lt_irrefl _ h

theorem lt_total (a b : Component) : a < b ∨ a = b ∨ b < a := by
  change Before a b ∨ a = b ∨ Before b a
  rcases Nat.lt_trichotomy a.rank.1 b.rank.1 with h | h | h
  · exact Or.inl (Or.inl h)
  · by_cases h1 : a.rank.2 < b.rank.2
    · exact Or.inl (Or.inr ⟨h, h1⟩)
    · by_cases h2 : b.rank.2 < a.rank.2
      · exact Or.inr (Or.inr (Or.inr ⟨h.symm, h2⟩))
      · exact Or.inr (Or.inl (rank_injective (Prod.ext h
          (String.le_antisymm (String.not_lt.1 h2) (String.not_lt.1 h1)))))
  · exact Or.inr (Or.inr (Or.inl h))

instance : Trans (α := Component) (· < ·) (· < ·) (· < ·) := ⟨lt_trans⟩

end Component

/-- Two lists of components are in order, one way or the other, unless they are equal. -/
theorem lt_total (a b : List Component) : a < b ∨ a = b ∨ b < a := by
  induction a generalizing b with
  | nil =>
    cases b with
    | nil => exact Or.inr (Or.inl rfl)
    | cons y ys => exact Or.inl (List.nil_lt_cons y ys)
  | cons x xs ih =>
    cases b with
    | nil => exact Or.inr (Or.inr (List.nil_lt_cons x xs))
    | cons y ys =>
      rcases Component.lt_total x y with h | rfl | h
      · exact Or.inl (List.Lex.rel h)
      · rcases ih ys with h | rfl | h
        · exact Or.inl (List.Lex.cons h)
        · exact Or.inr (Or.inl rfl)
        · exact Or.inr (Or.inr (List.Lex.cons h))
      · exact Or.inr (Or.inr (List.Lex.rel h))

theorem lt_asymm {a b : List Component} (h : a < b) : ¬b < a := by
  have : Std.Irrefl (α := Component) (· < ·) := ⟨Component.lt_irrefl⟩
  exact fun h' => List.lt_irrefl a (List.lt_trans h h')

/-- The parts of a path between slashes. -/
def slashParts (path : String) : List (List Char) :=
  parts '/' path.toList

/-- The component of a part between slashes, `none` if it does not count. -/
def component? (part : List Char) : Option Component :=
  match part with
  | [] => none
  | ['.'] => none
  | ['.', '.'] => some .parent
  | part => some (.name (String.ofList part))

/-- The components of a path. -/
def components (path : String) : List Component :=
  match slashParts path with
  | [] => []
  | [] :: [] => []
  | [] :: parts => .root :: parts.filterMap component?
  | ['.'] :: parts => .here :: parts.filterMap component?
  | parts => parts.filterMap component?

/-- Whether a path starts at the root. -/
def isAbsolute (path : String) : Bool :=
  path.toList.head? == some '/'

/-- The path `path` below `base`; an absolute path stays as it is. -/
def join (base path : String) : String :=
  if isAbsolute path || base.isEmpty then path
  else if base.toList.getLast? == some '/' then base ++ path
  else base ++ "/" ++ path

/-- Paths of the same components denote the same place. -/
def Same (a b : String) : Prop :=
  components a = components b

instance : DecidableRel Same := fun a b =>
  inferInstanceAs (Decidable (components a = components b))

end Downstream.Path
