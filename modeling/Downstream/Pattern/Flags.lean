import Downstream.Pattern.Form

/-!
# Flags of a pattern

Flags change what the text of a pattern means: `Flags.change?` sets or clears them as written in a
group such as `(?i-u)`. The other definitions say what literals, the dot, sets and repetitions mean
under the flags.
-/

namespace Downstream.Pattern

open Unicode (CharSet)

/-- The flags in force at some place of a pattern. -/
structure Flags where
  /-- `i`: letters match in either case. -/
  ignoreCase : Bool := false
  /-- `m`: `^` and `$` match at lines. -/
  multiLine : Bool := false
  /-- `s`: the dot matches a line feed. -/
  dotAll : Bool := false
  /-- `U`: repetitions are lazy unless marked. -/
  swapGreed : Bool := false
  /-- `u`: the pattern is about characters and not bytes. -/
  unicode : Bool := true
  /-- `R`: a carriage return ends a line too. -/
  crlf : Bool := false
  /-- `x`: blanks and comments in the pattern do not count. -/
  verbose : Bool := false
  deriving Repr, DecidableEq

namespace Flags

/-- Sets the flag with this letter, `none` if no flag has it. -/
def set? (f : Flags) (letter : Char) (value : Bool) : Option Flags :=
  match letter with
  | 'i' => some { f with ignoreCase := value }
  | 'm' => some { f with multiLine := value }
  | 's' => some { f with dotAll := value }
  | 'U' => some { f with swapGreed := value }
  | 'u' => some { f with unicode := value }
  | 'R' => some { f with crlf := value }
  | 'x' => some { f with verbose := value }
  | _ => none

/-- Applies the letters of a flag group: those after a `-` are cleared. A letter may occur once, and
so may the `-`, which needs a letter after it. -/
def changeAux (f : Flags) (value : Bool) (seen : List Char) : List Char → Option Flags
  | [] => if seen.head? = some '-' then none else some f
  | c :: rest =>
    if seen.contains c then none
    else if c = '-' then changeAux f false ('-' :: seen) rest
    else
      match f.set? c value with
      | some f => changeAux f value (c :: seen) rest
      | none => none

/-- The flags after a group with these letters, `none` if it is not well-formed. -/
def change? (f : Flags) (letters : List Char) : Option Flags :=
  changeAux f true [] letters

/-! ## Meanings under the flags -/

/-- One member of a set of characters or of bytes. -/
def oneOf (f : Flags) (set : CharSet) : Form :=
  if f.unicode then .scalar set else .octet set

/-- The members of a set and, where case does not count, their variants. -/
def foldCase (f : Flags) (set : CharSet) : CharSet :=
  if f.ignoreCase then
    if f.unicode then .folded set else .asciiFolded set
  else set

/-- The characters that a character stands for when case is ignored. -/
def variants (f : Flags) (c : Char) : List Nat :=
  if f.unicode then Unicode.Fold.variants c.toNat else CharSet.asciiVariants c.toNat

/-- A character as a pattern. -/
def literal (f : Flags) (c : Char) : Form :=
  if f.ignoreCase && f.variants c != [c.toNat] then
    f.oneOf (.ranges (.ofCodePoints (f.variants c)))
  else .text (Utf8.encode c)

/-- A byte given by its two hexadecimal digits as a pattern: the character of that number, unless
the pattern is about bytes. -/
def byteLiteral (f : Flags) (c : Char) : Form :=
  if f.unicode || c.toNat ≤ 0x7F then f.literal c else .text [c.toNat.toUInt8]

/-- The dot as a pattern. -/
def dot (f : Flags) : Form :=
  let excluded : CharSet :=
    if f.dotAll then .empty
    else if f.crlf then .ranges [(0x0A, 0x0A), (0x0D, 0x0D)]
    else .single 0x0A
  f.oneOf (.compl excluded)

/-- `^` as a pattern. -/
def caret (f : Flags) : Form :=
  .look (if f.multiLine then .lineStart f.crlf else .textStart)

/-- `$` as a pattern. -/
def dollar (f : Flags) : Form :=
  .look (if f.multiLine then .lineEnd f.crlf else .textEnd)

/-- Digits. -/
def digitSet (f : Flags) : CharSet :=
  if f.unicode then .ranges Unicode.decimalNumber else .ranges [(0x30, 0x39)]

/-- Blanks. -/
def blankSet (f : Flags) : CharSet :=
  if f.unicode then .ranges Unicode.whiteSpace else .ranges [(0x09, 0x0D), (0x20, 0x20)]

/-- Characters of words. -/
def wordSet (f : Flags) : CharSet :=
  if f.unicode then Unicode.Property.word
  else .ranges [(0x30, 0x39), (0x41, 0x5A), (0x5F, 0x5F), (0x61, 0x7A)]

/-- The set that a letter after a backslash stands for; a capital letter stands for the rest. -/
def escapeSet? (f : Flags) (letter : Char) : Option CharSet :=
  match letter with
  | 'd' => some f.digitSet
  | 's' => some f.blankSet
  | 'w' => some f.wordSet
  | 'D' => some (.compl f.digitSet)
  | 'S' => some (.compl f.blankSet)
  | 'W' => some (.compl f.wordSet)
  | _ => none

/-- Whether a repetition that is marked lazy or not is greedy. -/
def greedy (f : Flags) (lazy : Bool) : Bool :=
  f.swapGreed == lazy

end Flags

/-- The ASCII sets with a name, as in `[[:alpha:]]`. -/
def namedAsciiSet? (name : String) : Option CharSet :=
  match name with
  | "alnum" => some (.ranges [(0x30, 0x39), (0x41, 0x5A), (0x61, 0x7A)])
  | "alpha" => some (.ranges [(0x41, 0x5A), (0x61, 0x7A)])
  | "ascii" => some (.ranges [(0x00, 0x7F)])
  | "blank" => some (.ranges [(0x09, 0x09), (0x20, 0x20)])
  | "cntrl" => some (.ranges [(0x00, 0x1F), (0x7F, 0x7F)])
  | "digit" => some (.ranges [(0x30, 0x39)])
  | "graph" => some (.ranges [(0x21, 0x7E)])
  | "lower" => some (.ranges [(0x61, 0x7A)])
  | "print" => some (.ranges [(0x20, 0x7E)])
  | "punct" => some (.ranges [(0x21, 0x2F), (0x3A, 0x40), (0x5B, 0x60), (0x7B, 0x7E)])
  | "space" => some (.ranges [(0x09, 0x0D), (0x20, 0x20)])
  | "upper" => some (.ranges [(0x41, 0x5A)])
  | "word" => some (.ranges [(0x30, 0x39), (0x41, 0x5A), (0x5F, 0x5F), (0x61, 0x7A)])
  | "xdigit" => some (.ranges [(0x30, 0x39), (0x41, 0x46), (0x61, 0x66)])
  | _ => none

end Downstream.Pattern
