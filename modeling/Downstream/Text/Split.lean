/-!
# Splitting texts
-/

namespace Downstream

/-- The parts of a text between separators, one more than there are separators. `current` holds the
part so far, its last character first. -/
def partsOnto (separator : Char) (current : List Char) : List Char → List (List Char)
  | [] => [current.reverse]
  | c :: rest =>
    if c = separator then current.reverse :: partsOnto separator [] rest
    else partsOnto separator (c :: current) rest

/-- The parts of a text between separators, one more than there are separators. -/
def parts (separator : Char) (s : List Char) : List (List Char) :=
  partsOnto separator [] s

end Downstream
