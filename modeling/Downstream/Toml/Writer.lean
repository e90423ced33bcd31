import Downstream.Toml.Spelling
import Downstream.Toml.Value

/-!
# Writing values

A value in a line is written by `Value.inline`. A table of a document is written as its own lines,
the values that are no tables, under a header, and then its tables, each under its own header, as
are the elements of an array that holds nothing but tables. A table without own lines needs no
header if there are tables in it.
-/

namespace Downstream.Toml

/-- Whether a value is a table. -/
def Value.isTable : Value → Bool
  | .table _ => true
  | _ => false

/-- Whether a value is written under headers: a table, or an array of nothing but tables. -/
def Value.isSection : Value → Bool
  | .table _ => true
  | .array values => !values.isEmpty && values.all Value.isTable
  | _ => false

/-- A whole number in digits. -/
def writtenInteger (n : Int) : List Char :=
  if n < 0 then '-' :: Nat.toDigits 10 n.natAbs else Nat.toDigits 10 n.natAbs

/-- Words with commas between them. -/
def commaSeparated : List (List Char) → List Char
  | [] => []
  | [w] => w
  | w :: rest => w ++ ',' :: ' ' :: commaSeparated rest

/-- An array of written elements; two or more stand in a line each. -/
def writtenArray : List (List Char) → List Char
  | [] => ['[', ']']
  | [w] => '[' :: w ++ [']']
  | ws => '[' :: '\n' :: ws.flatMap (fun w => [' ', ' ', ' ', ' '] ++ w ++ [',', '\n']) ++ [']']

/-- A table of written entries in a line. -/
def writtenFields : List (List Char) → List Char
  | [] => ['\x7b', '\x7d']
  | ws => '\x7b' :: ' ' :: commaSeparated ws ++ [' ', '\x7d']

mutual

/-- A value as it is written in a line. -/
def Value.inline : Value → List Char
  | .string s => writtenText s
  | .integer n => writtenInteger n.toInt
  | .float x => x.text.toList
  | .boolean b => if b then "true".toList else "false".toList
  | .moment m => m.text
  | .array values => writtenArray (Value.inlineItems values)
  | .table entries => writtenFields (Value.inlineFields entries)

/-- Values as they are written in a line. -/
def Value.inlineItems : List Value → List (List Char)
  | [] => []
  | v :: rest => v.inline :: Value.inlineItems rest

/-- Entries as they are written in a line. -/
def Value.inlineFields : List (String × Value) → List (List Char)
  | [] => []
  | (k, v) :: rest =>
    (writtenKey k ++ [' ', '=', ' '] ++ v.inline) :: Value.inlineFields rest

end

/-- A key with its value in a line of its own. -/
def writtenEntry (k : String) (v : List Char) : List Char :=
  writtenKey k ++ [' ', '=', ' '] ++ v ++ ['\n']

/-- The lines of the entries of a table that are not written under headers. -/
def ownLines : List (String × Value) → List (List Char)
  | [] => []
  | (k, v) :: rest =>
    if v.isSection then ownLines rest else writtenEntry k v.inline :: ownLines rest

/-- A table under its header, which is set off by an empty line. -/
def writtenSection (isElement : Bool) (path : List String) (own inner : List (List Char)) :
    List Char :=
  let p := writtenPath path
  let header :=
    if isElement then ['\n', '[', '['] ++ p ++ [']', ']', '\n']
    else if own.isEmpty && !inner.isEmpty then []
    else ['\n', '['] ++ p ++ [']', '\n']
  header ++ own.flatten ++ inner.flatten

mutual

/-- What is written under headers for a value at a path. -/
def Value.sections (path : List String) : Value → List Char
  | .table entries =>
    writtenSection false path (ownLines entries) (Value.innerSections path entries)
  | .array values => Value.elementSections path values
  | _ => []

/-- What is written under headers for the entries of a table at a path. -/
def Value.innerSections (path : List String) : List (String × Value) → List (List Char)
  | [] => []
  | (k, v) :: rest =>
    if v.isSection then v.sections (path ++ [k]) :: Value.innerSections path rest
    else Value.innerSections path rest

/-- The elements of an array of tables at a path. -/
def Value.elementSections (path : List String) : List Value → List Char
  | [] => []
  | .table entries :: rest =>
    writtenSection true path (ownLines entries) (Value.innerSections path entries) ++
      Value.elementSections path rest
  | _ :: rest => Value.elementSections path rest

end

/-- A table at a path. -/
def writtenTable (path : List String) (t : Table) : List Char :=
  (Value.table t).sections path

end Downstream.Toml
