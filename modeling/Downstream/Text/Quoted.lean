import Downstream.Unicode.Latest

/-!
# Quoted texts in messages

A message quotes a text so that each of its characters can be seen: quotes, backslashes, what is not
visible by itself and what joins the character before it are written as escapes.
-/

namespace Downstream.Quoted

open Unicode (CharSet)

/-- The letters of Hangul that stand for a missing one. -/
def fillers : CharSet :=
  .ranges [(0x115F, 0x1160), (0x3164, 0x3164), (0xFFA0, 0xFFA0)]

/-- Characters that show nothing of their own, the space apart. -/
def invisible : CharSet :=
  .unions [Unicode.Latest.other, .diff Unicode.Category.separator (.single 0x20), fillers]

/-- Characters that join the one before; the halfwidth marks of Katakana stand apart. -/
def joining : CharSet :=
  .diff Unicode.Latest.graphemeExtend (.ranges [(0xFF9E, 0xFF9F)])

/-- Characters that are written as their numbers. -/
def numbered : CharSet :=
  .union invisible joining

/-- A character as it stands in a quoted text. -/
def escape (c : Char) : List Char :=
  if c = '"' then ['\\', '"']
  else if c = '\\' then ['\\', '\\']
  else if c = '\n' then ['\\', 'n']
  else if c = '\r' then ['\\', 'r']
  else if c = '\t' then ['\\', 't']
  else if c = '\x00' then ['\\', '0']
  else if ' ' ≤ c ∧ c ≤ '~' then [c]
  else if numbered.has c.toNat then
    ['\\', 'u', '\x7b'] ++ Nat.toDigits 16 c.toNat ++ ['\x7d']
  else [c]

/-- A text between quotes. -/
def text (s : String) : String :=
  String.ofList ('"' :: s.toList.flatMap escape ++ ['"'])

end Downstream.Quoted
