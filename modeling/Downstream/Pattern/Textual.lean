import Downstream.Pattern.Reader

/-!
# Patterns for texts

Some patterns are searched for in texts and not in bytes, and without a look at what stands around:
every match of such a pattern consists of characters, and it asks for no edge of words in Unicode's
sense.
-/

namespace Downstream.Pattern

/-- Whether a condition compares the sides of a place as parts of words in Unicode's sense. -/
def Look.isUnicodeEdge : Look → Bool
  | word unicode _ => unicode
  | _ => false

namespace Form

mutual

/-- Whether all texts and sets in a form are of characters. -/
def isOfCharacters : Form → Bool
  | text s => (Utf8.toChars? s).isSome
  | octet set => set.octets.isAscii
  | group _ a => a.isOfCharacters
  | times a _ _ _ => a.isOfCharacters
  | seq parts => allOfCharacters parts
  | alt parts => allOfCharacters parts
  | _ => true

/-- Whether all texts and sets in several forms are of characters. -/
def allOfCharacters : List Form → Bool
  | [] => true
  | a :: rest => a.isOfCharacters && allOfCharacters rest

end

/-- Whether a form is a pattern for texts. -/
def isTextual (a : Form) : Bool :=
  a.isOfCharacters && !a.shape.looks Look.isUnicodeEdge

end Form

end Downstream.Pattern
