import Downstream.Text.Digit
import Downstream.Text.Split
import Downstream.Toml.Item

/-!
# Numbers in a document

Whole numbers are decimal, with a sign if one likes, or of radix sixteen, eight or two without one.
Underscores may stand between digits. A decimal number has no zero before other digits, and one with
a point has digits on both sides of it. An underscore may also part a sign from the digits; they may
then start with zeros.

Some words pass for whole numbers until their value is asked for: `resemblesInteger` tells which.
-/

namespace Downstream.Toml.Number

/-- The digits in a row that underscores may part, `none` if it is empty or an underscore stands
elsewhere than between two digits. -/
def plainDigits? (radix : Nat) : List Char → Option (List Char)
  | [] => none
  | [c] => if isDigit radix c then some [c] else none
  | c :: '_' :: rest =>
    if isDigit radix c then (plainDigits? radix rest).map (c :: ·) else none
  | c :: rest =>
    if isDigit radix c then (plainDigits? radix rest).map (c :: ·) else none

/-- The digits of a decimal number: no zero stands before other digits. -/
def wholeDigits? (s : List Char) : Option (List Char) :=
  match plainDigits? 10 s with
  | some ('0' :: _ :: _) => none
  | ds => ds

/-- The sign in front and what follows it. -/
def sign (s : List Char) : Bool × List Char :=
  match s with
  | '-' :: rest => (true, rest)
  | '+' :: rest => (false, rest)
  | s => (false, s)

/-- Whether a decimal number is negative, and its digits. -/
def signedDigits? (s : List Char) : Option (Bool × List Char) :=
  match sign s with
  | (negative, '_' :: rest) =>
    if s.head? = some '_' then none else (plainDigits? 10 rest).map (negative, ·)
  | (negative, rest) => (wholeDigits? rest).map (negative, ·)

/-- A whole number. -/
def integer? (s : List Char) : Option Int :=
  match s with
  | '0' :: 'x' :: rest => (plainDigits? 16 rest).map fun ds => (number 16 ds : Int)
  | '0' :: 'o' :: rest => (plainDigits? 8 rest).map fun ds => (number 8 ds : Int)
  | '0' :: 'b' :: rest => (plainDigits? 2 rest).map fun ds => (number 2 ds : Int)
  | s =>
    (signedDigits? s).map fun (negative, ds) =>
      if negative then -(number 10 ds : Int) else number 10 ds

/-- Whether no part between underscores starts with something else than a digit of radix sixteen,
or ends with something else, the last one apart. A first part of one character may be anything. -/
def underscoresFit (first : List Char) (later : List (List Char)) : Bool :=
  let isHex (c? : Option Char) : Bool := c?.any (isDigit 16)
  later.all (fun part => isHex part.head?) &&
    (first :: later).dropLast.all fun part => part.length == 1 || isHex part.getLast?

/-- Whether a word that is no number passes for a whole number at first sight: a radix without
digits, or a decimal number whose first digits end at an underscore. -/
def resemblesInteger (s : List Char) : Bool :=
  match s with
  | ['0', 'x'] => true
  | ['0', 'o'] => true
  | ['0', 'b'] => true
  | s =>
    let (_, unsigned) := sign s
    let tail := unsigned.dropWhile (isDigit 10)
    tail.head? == some '_' && unsigned.head? != some '0' &&
      tail.all (fun c => c != '.' && c != 'e' && c != 'E' && c != ' ') &&
      match parts '_' s with
      | [] => false
      | first :: later => underscoresFit first later

/-- The exponent in a number, zero if the number has none. -/
def exponent? : List Char → Option Int
  | [] => some 0
  | c :: rest =>
    if c = 'e' ∨ c = 'E' then
      let (negative, rest) := sign rest
      (plainDigits? 10 rest).map fun ds =>
        if negative then -(number 10 ds : Int) else number 10 ds
    else none

/-- Whether a character starts an exponent. -/
def isExponentMark (c : Char) : Bool :=
  c = 'e' || c = 'E'

/-- The digits after the point and the rest; no digits if there is no point. -/
def fraction? (s : List Char) : Option (List Char × List Char) :=
  match s with
  | '.' :: rest =>
    (plainDigits? 10 (rest.takeWhile fun c => !isExponentMark c)).map fun ds =>
      (ds, rest.dropWhile fun c => !isExponentMark c)
  | s => some ([], s)

/-- A number with a point, an exponent or both, or a word for what is no decimal. -/
def float? (s : List Char) : Option Numeral := do
  let (negative, rest) := sign s
  if rest = ['i', 'n', 'f'] then return .infinite negative
  if rest = ['n', 'a', 'n'] then return .nan
  let isWhole (c : Char) : Bool := !isExponentMark c && c != '.'
  let (_, whole) ← signedDigits? (s.takeWhile isWhole)
  let (fraction, tail) ← fraction? (s.dropWhile isWhole)
  let exponent ← exponent? tail
  return .decimal negative ⟨number 10 (whole ++ fraction), exponent - fraction.length⟩

end Downstream.Toml.Number
