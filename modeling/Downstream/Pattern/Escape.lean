import Downstream.Pattern.Flags
import Downstream.Text.Digit

/-!
# Escapes in a pattern

What may follow a backslash: numbers of characters, properties, sets, conditions, control
characters and characters that stand for themselves. `escape?` reads one, given the text after the
backslash, and returns what it stands for with the text that is left.
-/

namespace Downstream.Pattern

open Unicode (CharSet)

/-- What one item of a pattern stands for. -/
inductive Atom where
  /-- A character. -/
  | char (c : Char)
  /-- The character or byte with a number of two hexadecimal digits. -/
  | byte (c : Char)
  /-- One of a set of characters, or of bytes, as the flags say. -/
  | set (s : CharSet)
  /-- A condition on the place. -/
  | look (l : Look)
  deriving Repr

/-- The form of an item. -/
def Atom.form (f : Flags) : Atom → Form
  | char c => f.literal c
  | byte c => f.byteLiteral c
  | set s => f.oneOf s
  | look l => .look l

/-! ## Blanks -/

/-- Skips blanks and comments, which run from `#` to the end of the line. -/
def skipBlanks (inComment : Bool) : List Char → List Char
  | [] => []
  | c :: rest =>
    if inComment then skipBlanks (c != '\n') rest
    else if Unicode.Property.isBlank c then skipBlanks false rest
    else if c = '#' then skipBlanks true rest
    else c :: rest

/-- Skips blanks and comments where they do not count. -/
def Flags.skip (f : Flags) (s : List Char) : List Char :=
  if f.verbose then skipBlanks false s else s

/-! ## Numbers of characters -/

/-- Reads `count` hexadecimal digits onto the number `n`. -/
def hexDigits? (f : Flags) : (count n : Nat) → List Char → Option (Nat × List Char)
  | 0, n, s => some (n, s)
  | count + 1, n, s =>
    match f.skip s with
    | [] => none
    | c :: rest =>
      match digitValue? 16 c with
      | none => none
      | some d => hexDigits? f count (n * 16 + d) rest

/-- Reads hexadecimal digits up to a closing brace, one at least; `digits` are those read. -/
def hexBraced? (f : Flags) : (fuel : Nat) → (digits : List Nat) → List Char →
    Option (Nat × List Char)
  | 0, _, _ => none
  | fuel + 1, digits, s =>
    match f.skip s with
    | [] => none
    | c :: rest =>
      if c = '\x7d' then
        if digits.isEmpty then none
        else some (digits.foldr (fun d n => n * 16 + d) 0, rest)
      else
        match digitValue? 16 c with
        | none => none
        | some d => hexBraced? f fuel (d :: digits) rest

/-- Reads the number of a character after one of the letters `x`, `u` and `U`: two, four or eight
digits, or any number of them in braces. -/
def hexEscape? (f : Flags) (letter : Char) (s : List Char) : Option (Atom × List Char) :=
  match f.skip s with
  | [] => none
  | c :: rest =>
    if c = '\x7b' then do
      let (n, rest) ← hexBraced? f (rest.length + 1) [] rest
      let char ← Utf8.scalar? 0 n
      return (.char char, rest)
    else do
      let count := if letter = 'x' then 2 else if letter = 'u' then 4 else 8
      let (n, rest) ← hexDigits? f count 0 (c :: rest)
      let char ← Utf8.scalar? 0 n
      return (if letter = 'x' then .byte char else .char char, rest)

/-! ## Properties -/

/-- Reads up to a closing brace, leaving out blanks where they do not count. -/
def braced? (f : Flags) : (fuel : Nat) → (acc : List Char) → List Char →
    Option (List Char × List Char)
  | 0, _, _ => none
  | fuel + 1, acc, s =>
    match f.skip s with
    | [] => none
    | c :: rest =>
      if c = '\x7d' then some (acc.reverse, rest) else braced? f fuel (c :: acc) rest

/-- Splits at the first place where `sep` stands. -/
def splitAt? (sep : List Char) : (before : List Char) → List Char →
    Option (List Char × List Char)
  | before, s =>
    if sep.isPrefixOf s then some (before.reverse, s.drop sep.length)
    else
      match s with
      | [] => none
      | c :: rest => splitAt? sep (c :: before) rest

/-- The set of a property as written in braces: a name, or a name and a value. The flag says whether
the rest of the characters is meant. -/
def property? (name : List Char) : Option (CharSet × Bool) :=
  let valued (parts : List Char × List Char) : Option CharSet :=
    Unicode.Property.valued? (String.ofList parts.1) (String.ofList parts.2)
  match splitAt? ['!', '='] [] name with
  | some parts => (valued parts).map (·, true)
  | none =>
    match splitAt? [':'] [] name with
    | some parts => (valued parts).map (·, false)
    | none =>
      match splitAt? ['='] [] name with
      | some parts => (valued parts).map (·, false)
      | none => (Unicode.Property.named? (String.ofList name)).map (·, false)

/-- Reads the property after `p` or `P`: one letter, or a name in braces. -/
def propertyEscape? (f : Flags) (negated : Bool) (s : List Char) :
    Option (Atom × List Char) :=
  match f.skip s with
  | [] => none
  | c :: rest => do
    let (name, rest) ←
      if c = '\x7b' then braced? f (rest.length + 1) [] rest
      else if c = '\\' then none
      else some ([c], rest)
    let (set, inverted) ← property? name
    if f.unicode then
      let set := f.foldCase set
      return (.set (if negated != inverted then .compl set else set), rest)
    else none

/-! ## Conditions -/

/-- Letters and hyphens up to the first other character, leaving out blanks where they do not
count. -/
def edgeName (f : Flags) : (fuel : Nat) → (acc : List Char) → List Char → List Char × List Char
  | 0, acc, s => (acc.reverse, s)
  | fuel + 1, acc, s =>
    match s with
    | c :: rest =>
      if c.isAlpha || c = '-' then edgeName f fuel (c :: acc) (f.skip rest) else (acc.reverse, s)
    | [] => (acc.reverse, s)

/-- Reads what may follow `\b`: the name of an edge in braces. Braces that start with something
else belong to a repetition. -/
def boundary? (f : Flags) (s : List Char) : Option (Edge × List Char) :=
  match s with
  | '\x7b' :: rest =>
    match f.skip rest with
    | [] => none
    | c :: rest' =>
      if c.isAlpha || c = '-' then
        match edgeName f (rest'.length + 1) [] (c :: rest') with
        | (name, '\x7d' :: rest) =>
          match String.ofList name with
          | "start" => some (.start, rest)
          | "end" => some (.stop, rest)
          | "start-half" => some (.startHalf, rest)
          | "end-half" => some (.stopHalf, rest)
          | _ => none
        | _ => none
      else some (.boundary, s)
  | _ => some (.boundary, s)

/-! ## All escapes -/

/-- ASCII characters that a backslash before them leaves as they are. -/
def standsForItself (c : Char) : Bool :=
  c.toNat ≤ 0x7F && !c.isAlphanum && c != '<' && c != '>'

/-- The control character of a letter. -/
def controlChar? (c : Char) : Option Char :=
  match c with
  | 'a' => some '\x07'
  | 'f' => some '\x0c'
  | 't' => some '\t'
  | 'n' => some '\n'
  | 'r' => some '\r'
  | 'v' => some '\x0b'
  | _ => none

/-- Reads an escape, given the text after the backslash. -/
def escape? (f : Flags) (s : List Char) : Option (Atom × List Char) :=
  match s with
  | [] => none
  | c :: rest =>
    if c = 'x' ∨ c = 'u' ∨ c = 'U' then hexEscape? f c rest
    else if c = 'p' ∨ c = 'P' then propertyEscape? f (c = 'P') rest
    else
      match f.escapeSet? c, controlChar? c with
      | some set, _ => some (.set set, rest)
      | none, some control => some (.char control, rest)
      | none, none =>
        if standsForItself c then some (.char c, rest)
        else
          match c with
          | 'A' => some (.look .textStart, rest)
          | 'z' => some (.look .textEnd, rest)
          | 'b' => (boundary? f rest).map fun (edge, rest) => (.look (.word f.unicode edge), rest)
          | 'B' => some (.look (.word f.unicode .interior), rest)
          | '<' => some (.look (.word f.unicode .start), rest)
          | '>' => some (.look (.word f.unicode .stop), rest)
          | _ => none

end Downstream.Pattern
