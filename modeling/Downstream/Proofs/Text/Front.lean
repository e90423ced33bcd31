/-!
# What is at the front of a text

A reader takes the characters at the front of a text that satisfy a predicate. It takes as many as
were put there if what follows does not start with such a character (`takeWhile_append`,
`dropWhile_append`).
-/

namespace Downstream

variable {p : Char → Bool} {s rest : List Char}

/-- What follows does not start with a character that `p` holds of. -/
def StartsOutside (p : Char → Bool) (rest : List Char) : Prop :=
  ∀ c ∈ rest.head?, p c = false

theorem startsOutside_nil (p : Char → Bool) : StartsOutside p [] :=
  nofun

theorem StartsOutside.takeWhile (h : StartsOutside p rest) : rest.takeWhile p = [] := by
  cases rest with
  | nil => rfl
  | cons c rest => simp [h c rfl]

theorem StartsOutside.dropWhile (h : StartsOutside p rest) : rest.dropWhile p = rest := by
  cases rest with
  | nil => rfl
  | cons c rest => simp [h c rfl]

theorem takeWhile_append (hs : ∀ c ∈ s, p c = true) (hrest : StartsOutside p rest) :
    (s ++ rest).takeWhile p = s := by
  rw [List.takeWhile_append_of_pos hs, hrest.takeWhile, List.append_nil]

theorem dropWhile_append (hs : ∀ c ∈ s, p c = true) (hrest : StartsOutside p rest) :
    (s ++ rest).dropWhile p = rest := by
  rw [List.dropWhile_append_of_pos hs, hrest.dropWhile]

end Downstream
