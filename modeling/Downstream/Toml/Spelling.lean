import Downstream.Text.Digit

/-!
# How texts and keys are written

A text is written in the first of these ways that shows it as it is: between double quotes, between
single quotes, between three double quotes, between three single quotes. If none does, it is written
with escapes between double quotes, three of them if it has several lines. A key without quotes is
best, and a key stays in one line.
-/

namespace Downstream.Toml

/-- What there is in a text that decides how to write it. -/
structure Profile where
  /-- The length of the longest row of single quotes. -/
  singleQuotes : Nat
  /-- The length of the longest row of double quotes. -/
  doubleQuotes : Nat
  /-- Whether there is a backslash. -/
  backslash : Bool
  /-- Whether there is the end of a line. -/
  lines : Bool
  /-- Whether there is a control character other than tabs and ends of lines. -/
  control : Bool
  deriving Repr

/-- The length of the longest row of a character in a text that follows `row` of them. -/
def longestRow (q : Char) : (row : Nat) → List Char → Nat
  | row, [] => row
  | row, c :: rest => if c = q then longestRow q (row + 1) rest else max row (longestRow q 0 rest)

/-- Whether a character can only be written as an escape. -/
def isControl (c : Char) : Bool :=
  c = '\x7f' || (c < ' ' && c != '\t' && c != '\n')

/-- What there is in a text. -/
def profile (s : List Char) : Profile where
  singleQuotes := longestRow '\'' 0 s
  doubleQuotes := longestRow '"' 0 s
  backslash := s.any (· = '\\')
  lines := s.any (· = '\n')
  control := s.any isControl

/-- A digit of radix sixteen, as a capital letter after nine. -/
def hexDigit (n : Nat) : Char :=
  if n < 10 then Char.ofNat (0x30 + n) else Char.ofNat (0x37 + n)

/-- A character by its number, which has four digits. -/
def numberedEscape (c : Char) : List Char :=
  let n := c.toNat
  ['\\', 'u', hexDigit (n / 4096 % 16), hexDigit (n / 256 % 16), hexDigit (n / 16 % 16),
    hexDigit (n % 16)]

/-- The escape of a character, empty if it stands for itself. -/
def escapeOf (c : Char) : List Char :=
  if c = '\x08' then ['\\', 'b']
  else if c = '\t' then ['\\', 't']
  else if c = '\x0c' then ['\\', 'f']
  else if c = '\r' then ['\\', 'r']
  else if c = '\\' then ['\\', '\\']
  else if isControl c then numberedEscape c
  else []

/-- A text with escapes, for one line or for several. Of double quotes in a row, `row` stand right
before and at most `bound` may stand as they are. -/
def escaped (severalLines : Bool) (bound : Nat) : (row : Nat) → List Char → List Char
  | _, [] => []
  | row, c :: rest =>
    if c = '"' then
      if row < bound then '"' :: escaped severalLines bound (row + 1) rest
      else '\\' :: '"' :: escaped severalLines bound 0 rest
    else if c = '\n' then
      if severalLines then '\n' :: escaped severalLines bound 0 rest
      else '\\' :: 'n' :: escaped severalLines bound 0 rest
    else
      match escapeOf c with
      | [] => c :: escaped severalLines bound 0 rest
      | e => e ++ escaped severalLines bound 0 rest

/-- A text between double quotes. -/
def basic (s : List Char) : List Char :=
  '"' :: escaped false 0 0 s ++ ['"']

/-- A text between single quotes. -/
def literal (s : List Char) : List Char :=
  '\'' :: s ++ ['\'']

/-- The end of a line before a text of several lines. -/
def opening (t : Profile) : List Char :=
  if t.lines then ['\n'] else []

/-- A text between three double quotes. -/
def multiLineBasic (t : Profile) (s : List Char) : List Char :=
  ['"', '"', '"'] ++ opening t ++ escaped true 2 0 s ++ ['"', '"', '"']

/-- A text between three single quotes. -/
def multiLineLiteral (t : Profile) (s : List Char) : List Char :=
  ['\'', '\'', '\''] ++ opening t ++ s ++ ['\'', '\'', '\'']

/-- A text as it is written. -/
def writtenText (s : String) : List Char :=
  let s := s.toList
  let t := profile s
  if !t.control && !t.backslash && t.doubleQuotes = 0 && !t.lines then basic s
  else if !t.control && t.singleQuotes = 0 && !t.lines then literal s
  else if !t.control && !t.backslash && t.doubleQuotes ≤ 2 then multiLineBasic t s
  else if !t.control && t.singleQuotes ≤ 2 then multiLineLiteral t s
  else if t.lines then multiLineBasic t s
  else basic s

/-- Whether a character may stand in a key without quotes. -/
def isBare (c : Char) : Bool :=
  c.isAlphanum || c = '-' || c = '_'

/-- A key as it is written. -/
def writtenKey (k : String) : List Char :=
  let s := k.toList
  let t := profile s
  if !s.isEmpty && s.all isBare then s
  else if !t.control && !t.backslash && t.doubleQuotes = 0 && !t.lines then basic s
  else if !t.control && t.singleQuotes = 0 && !t.lines then literal s
  else basic s

/-- The keys on the way to a table, as a header has them. -/
def writtenPath : List String → List Char
  | [] => []
  | [k] => writtenKey k
  | k :: path => writtenKey k ++ '.' :: writtenPath path

end Downstream.Toml
