import Downstream.Text.Quoted
import Downstream.Toml.Writer

/-!
# Items in messages

What a message says that was found in a document in place of something else. A whole number is shown
if a word of 128 bits holds it, with or without a sign, and another number if it is finite or was
written as a word. `Item.fits` says that this holds for all numbers in an item.
-/

namespace Downstream.Toml

/-- A whole number in words, `none` if no word of 128 bits holds it. -/
def foundInteger? (n : Int) : Option String :=
  let shown := "integer `" ++ String.ofList (writtenInteger n) ++ "`"
  if -(twoTo 63) ≤ n ∧ n < twoTo 64 then some shown
  else if -(twoTo 127) ≤ n ∧ n < twoTo 127 then some (shown ++ " as i128")
  else if 0 ≤ n ∧ n < twoTo 128 then some (shown ++ " as u128")
  else none

/-- A number in words. -/
def foundFloat (x : Binary64) : String :=
  "floating point `" ++ (if x = .nan then "NaN" else x.text) ++ "`"

/-- What an item is, in words; `none` if it is no number, or one that does not fit. -/
def Item.found? : Item → Option String
  | .string s => some ("string " ++ Quoted.text s)
  | .integer n => foundInteger? n
  | .unreadable => none
  | .float x => x.toBinary64?.map foundFloat
  | .boolean b => some (if b then "boolean `true`" else "boolean `false`")
  | .moment _ => some "map"
  | .array _ => some "sequence"
  | .table _ => some "map"

mutual

/-- Whether all numbers in an item fit. -/
def Item.fits : Item → Bool
  | .integer n => (foundInteger? n).isSome
  | .unreadable => false
  | .float x => x.toBinary64?.isSome
  | .array items => Item.allFit items
  | .table entries => Item.entriesFit entries
  | _ => true

/-- Whether all numbers in items fit. -/
def Item.allFit : List Item → Bool
  | [] => true
  | v :: rest => v.fits && Item.allFit rest

/-- Whether all numbers in entries fit. -/
def Item.entriesFit : List (String × Item) → Bool
  | [] => true
  | (_, v) :: rest => v.fits && Item.entriesFit rest

end

end Downstream.Toml
