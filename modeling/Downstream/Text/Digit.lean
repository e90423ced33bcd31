/-!
# Digits

The values of digits, in radices up to sixteen, and the numbers that rows of digits denote.
-/

namespace Downstream

/-- The value of a digit; letters of either case go on after nine. -/
def digitValue? (radix : Nat) (c : Char) : Option Nat :=
  let value :=
    if '0' ≤ c ∧ c ≤ '9' then c.toNat - 0x30
    else if 'a' ≤ c ∧ c ≤ 'f' then c.toNat - 0x57
    else if 'A' ≤ c ∧ c ≤ 'F' then c.toNat - 0x37
    else radix
  if value < radix then some value else none

/-- Whether a character is a digit. -/
def isDigit (radix : Nat) (c : Char) : Bool :=
  (digitValue? radix c).isSome

/-- The number that the digits in a row denote after the number `n`; what is no digit is passed
over. -/
def numberOn (radix : Nat) (n : Nat) : List Char → Nat
  | [] => n
  | c :: rest =>
    match digitValue? radix c with
    | some d => numberOn radix (n * radix + d) rest
    | none => numberOn radix n rest

/-- The number that the digits in a row denote. -/
def number (radix : Nat) (digits : List Char) : Nat :=
  numberOn radix 0 digits

/-- A number in at least `width` decimal digits. -/
def paddedDigits (width n : Nat) : List Char :=
  let ds := Nat.toDigits 10 n
  List.replicate (width - ds.length) '0' ++ ds

end Downstream
