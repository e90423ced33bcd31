/-!
# UTF-8

Texts of files are bytes, and only some bytes encode characters. `decode?` reads one scalar value
from the front of a byte sequence, strictly: no overlong form, no surrogate, nothing above
U+10FFFF. `toChars?` reads a whole sequence and `ofString` writes one.
-/

namespace Downstream

/-- The content of a file or of a message: a sequence of bytes. -/
abbrev Bytes := List UInt8

namespace Utf8

/-- The bytes of one character. -/
def encode (c : Char) : Bytes :=
  String.utf8EncodeChar c

/-- The bytes of a sequence of characters. -/
def ofChars (cs : List Char) : Bytes :=
  cs.flatMap encode

/-- The bytes of a text. -/
def ofString (s : String) : Bytes :=
  ofChars s.toList

/-- The payload of a continuation byte, `none` for any other byte. -/
def continuation? (b : UInt8) : Option Nat :=
  if 0x80 ≤ b ∧ b ≤ 0xBF then some (b.toNat - 0x80) else none

/-- The scalar value `v`, unless it is below `least` (an overlong form) or no scalar value. -/
def scalar? (least v : Nat) : Option Char :=
  if h : least ≤ v ∧ v.isValidChar then some (Char.ofNatAux v h.2) else none

/-- The character at the front of `bytes` and the number of its bytes. -/
def decode? : Bytes → Option (Char × Nat)
  | [] => none
  | a :: rest =>
    if a < 0x80 then
      some (Char.ofNat a.toNat, 1)
    else if a < 0xC0 then
      none
    else if a < 0xE0 then
      match rest with
      | b :: _ => do
        let b ← continuation? b
        let c ← scalar? 0x80 ((a.toNat - 0xC0) * 0x40 + b)
        return (c, 2)
      | _ => none
    else if a < 0xF0 then
      match rest with
      | b :: c :: _ => do
        let b ← continuation? b
        let c ← continuation? c
        let d ← scalar? 0x800 (((a.toNat - 0xE0) * 0x40 + b) * 0x40 + c)
        return (d, 3)
      | _ => none
    else if a < 0xF8 then
      match rest with
      | b :: c :: d :: _ => do
        let b ← continuation? b
        let c ← continuation? c
        let d ← continuation? d
        let e ← scalar? 0x10000 ((((a.toNat - 0xF0) * 0x40 + b) * 0x40 + c) * 0x40 + d)
        return (e, 4)
      | _ => none
    else
      none

/-- A byte that is no continuation byte: it starts a character, or no character has it. -/
def isLead (b : UInt8) : Bool :=
  b &&& 0xC0 != 0x80

/-- The bytes from the nearest byte that is no continuation byte, at most `reach` steps back, on.
`before` holds the bytes that precede a position, the nearest first. -/
def nearestLead : (reach : Nat) → (before : Bytes) → Bytes → Bytes
  | _, [], found => found
  | 0, _, found => found
  | reach + 1, b :: before, found =>
    if isLead b then b :: found else nearestLead reach before (b :: found)

/-- The character that the bytes just before a position start with, counted from the nearest byte
among the last four that is no continuation byte (or from the fourth). -/
def decodeBefore? (before : Bytes) : Option Char :=
  (decode? (nearestLead 4 before [])).map Prod.fst

/-- Reads `fuel` characters at most. -/
def toCharsAux : (fuel : Nat) → Bytes → List Char → Option (List Char)
  | _, [], acc => some acc.reverse
  | 0, _ :: _, _ => none
  | fuel + 1, b :: rest, acc =>
    match decode? (b :: rest) with
    | none => none
    | some (c, n) => toCharsAux fuel (rest.drop (n - 1)) (c :: acc)

/-- The characters that `bytes` encode, `none` where some part of it encodes none. -/
def toChars? (bytes : Bytes) : Option (List Char) :=
  toCharsAux bytes.length bytes []

/-- The text that `bytes` encode. -/
def toString? (bytes : Bytes) : Option String :=
  (toChars? bytes).map String.ofList

end Utf8

end Downstream
