import Downstream.Toml.Number
import Downstream.Toml.Outline
import Downstream.Toml.Spelling
import Downstream.Toml.Text

/-!
# Reading a document

`Toml.read?` takes a text for what it says, `none` if it is no document of version 1.1 of the
format. Every reader here is given a text and returns what it has read with the text that is left.
Brackets and braces nest at most eighty deep, and a dotted key has at most eighty parts.
-/

namespace Downstream.Toml

/-- How deep values nest, and how many parts a dotted key has, at most. -/
def depthLimit : Nat := 80

/-! ## Between the words -/

/-- What follows blanks, ends of lines and comments, `none` if a comment holds a control character.
`inComment` tells whether the text starts in a comment. -/
def skipGap? : (inComment : Bool) → List Char → Option (List Char)
  | _, [] => some []
  | _, '\r' :: '\n' :: rest => skipGap? false rest
  | true, c :: rest =>
    if c = '\n' then skipGap? false rest
    else if isText c then skipGap? true rest
    else none
  | false, c :: rest =>
    if c = '\n' ∨ isBlank c then skipGap? false rest
    else if c = '#' then skipGap? true rest
    else some (c :: rest)

/-- What follows blanks. -/
def skipBlanks (s : List Char) : List Char :=
  s.dropWhile isBlank

/-- What follows the end of a line, perhaps after a comment; `none` if more stands in the line. -/
def endLine? (s : List Char) : Option (List Char) :=
  match skipBlanks s with
  | [] => some []
  | '#' :: rest => skipGap? true rest
  | s => newline? s

/-! ## Keys -/

/-- Reads a key, in quotes or without. -/
def key? (s : List Char) : Option (String × List Char) :=
  match s with
  | '"' :: rest => (basic? [] rest).map fun (k, rest) => (String.ofList k, rest)
  | '\'' :: rest => (literal? rest).map fun (k, rest) => (String.ofList k, rest)
  | s =>
    match s.takeWhile isBare with
    | [] => none
    | k => some (String.ofList k, s.dropWhile isBare)

/-- Reads a dotted key of `limit` parts at most: the keys before the last dot, the last key, and
what follows it and blanks. -/
def dottedKey? : (limit : Nat) → List Char → Option ((List String × String) × List Char)
  | 0, _ => none
  | limit + 1, s =>
    match key? (skipBlanks s) with
    | none => none
    | some (k, s) =>
      match skipBlanks s with
      | '.' :: rest =>
        match dottedKey? limit rest with
        | none => none
        | some ((path, last), rest) => some ((k :: path, last), rest)
      | rest => some (([], k), rest)

/-! ## Values -/

/-- Whether a character may stand in a value without quotes. -/
def isPlain (c : Char) : Bool :=
  isBare c || c = '+' || c = '.' || c = ':'

/-- The value that a word without quotes denotes. -/
def plain? (word : List Char) : Option Item :=
  if word = ['t', 'r', 'u', 'e'] then some (.boolean true)
  else if word = ['f', 'a', 'l', 's', 'e'] then some (.boolean false)
  else
    match Moment.read? word with
    | some m => some (.moment m)
    | none =>
      match Number.integer? word with
      | some n => some (.integer n)
      | none =>
        match Number.float? word with
        | some x => some (.float x)
        | none => if Number.resemblesInteger word then some .unreadable else none

/-- Whether a word is a date, so that a space and a digit after it go on with a time of day. -/
def isDate (word : List Char) : Bool :=
  match Date.take? word with
  | some (_, []) => true
  | _ => false

/-- Reads a value without quotes. -/
def takePlain? (s : List Char) : Option (Item × List Char) :=
  let word := s.takeWhile isPlain
  let rest := s.dropWhile isPlain
  match rest with
  | ' ' :: c :: more =>
    if isDate word && isDigit 10 c then
      let time := (c :: more).takeWhile isPlain
      (plain? (word ++ ' ' :: time)).map fun v => (v, (c :: more).dropWhile isPlain)
    else (plain? word).map fun v => (v, rest)
  | _ => (plain? word).map fun v => (v, rest)

/-- Reads the elements of an array up to its closing bracket, given how to read one. -/
def elements? (element? : List Char → Option (Item × List Char)) :
    (fuel : Nat) → (done : List Item) → List Char → Option (List Item × List Char)
  | 0, _, _ => none
  | fuel + 1, done, s =>
    match skipGap? false s with
    | none => none
    | some (']' :: rest) => some (done.reverse, rest)
    | some s => do
      let (v, s) ← element? s
      match ← skipGap? false s with
      | ',' :: rest => elements? element? fuel (v :: done) rest
      | ']' :: rest => some ((v :: done).reverse, rest)
      | _ => none

/-- Reads the entries of a table up to its closing brace, given how to read a value. -/
def fields? (value? : List Char → Option (Item × List Char)) :
    (fuel : Nat) → (done : Entries) → List Char → Option (Entries × List Char)
  | 0, _, _ => none
  | fuel + 1, done, s =>
    match skipGap? false s with
    | none => none
    | some ('\x7d' :: rest) => some (done, rest)
    | some s => do
      let ((path, k), s) ← dottedKey? depthLimit s
      let s ← takeChar '=' (← skipGap? false s)
      let (v, s) ← value? (← skipGap? false s)
      let done ← done.define path k v
      match ← skipGap? false s with
      | ',' :: rest => fields? value? fuel done rest
      | '\x7d' :: rest => some (done, rest)
      | _ => none

/-- Reads a value that nests at most `depth` deep. -/
def value? : (depth : Nat) → List Char → Option (Item × List Char)
  | 0, s =>
    match quoted? s with
    | some (t, rest) => some (.string (String.ofList t), rest)
    | none => takePlain? s
  | depth + 1, s =>
    match s with
    | '[' :: rest =>
      (elements? (value? depth) (rest.length + 1) [] rest).map fun (vs, rest) => (.array vs, rest)
    | '\x7b' :: rest =>
      (fields? (value? depth) (rest.length + 1) [] rest).map fun (entries, rest) =>
        (.table (itemsOf entries), rest)
    | s =>
      match quoted? s with
      | some (t, rest) => some (.string (String.ofList t), rest)
      | none => takePlain? s

/-! ## Lines -/

/-- Reads the rest of a header after its opening brackets. -/
def header? (isElement : Bool) (s : List Char) : Option (Line × List Char) := do
  let ((path, k), s) ← dottedKey? depthLimit s
  let s ← takeChar ']' s
  let s ← if isElement then takeChar ']' s else some s
  return (.header ⟨isElement, path, k⟩, s)

/-- Reads a key with its value. -/
def entry? (s : List Char) : Option (Line × List Char) := do
  let ((path, k), s) ← dottedKey? depthLimit s
  let s ← takeChar '=' s
  let (v, s) ← value? depthLimit (skipBlanks s)
  return (.entry ⟨path, k, v⟩, s)

/-- Reads what a line says. -/
def line? (s : List Char) : Option (Line × List Char) :=
  match s with
  | '[' :: '[' :: rest => header? true rest
  | '[' :: rest => header? false rest
  | s => entry? s

/-- Reads all lines. `done` are those so far, the last one first. -/
def lines? : (fuel : Nat) → (done : List Line) → List Char → Option (List Line)
  | 0, _, _ => none
  | fuel + 1, done, s =>
    match skipGap? false s with
    | none => none
    | some [] => some done.reverse
    | some s => do
      let (l, s) ← line? s
      lines? fuel (l :: done) (← endLine? s)

/-- What a document says: the entries of its main table. A byte order mark may stand in front. -/
def read? (text : String) : Option (Dict String Item) := do
  let s := match text.toList with
    | '\ufeff' :: rest => rest
    | s => s
  let lines ← lines? (s.length + 1) [] s
  let entries ← Entries.ofLines? lines
  return itemsOf entries

end Downstream.Toml
