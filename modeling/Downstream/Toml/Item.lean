import Downstream.Dict
import Downstream.Number.Binary64
import Downstream.Toml.Moment

/-!
# What a document says

An item is a value as a document has it: whole numbers of any size, and other numbers as the
decimals that they are written as. What numbers a program can hold is decided later, and so is what
becomes of a document with words that only resemble numbers.
-/

namespace Downstream.Toml

/-- A number with a point or an exponent, or one of the words for what is no decimal. -/
inductive Numeral where
  | decimal (negative : Bool) (d : Decimal)
  | infinite (negative : Bool)
  | nan
  deriving Repr, DecidableEq

/-- A value in a document. The entries of a table are in ascending order of their keys. -/
inductive Item where
  | string (s : String)
  | integer (n : Int)
  /-- A word in the place of a whole number that is none. -/
  | unreadable
  | float (x : Numeral)
  | boolean (b : Bool)
  | moment (m : Moment)
  | array (items : List Item)
  | table (entries : List (String × Item))
  deriving Repr

namespace Numeral

/-- The number nearest to a numeral; `none` if that is not finite and the numeral is. -/
def toBinary64? : Numeral → Option Binary64
  | decimal negative d => Binary64.ofDecimal? negative d
  | infinite negative => some (.infinite negative)
  | nan => some .nan

end Numeral

end Downstream.Toml
