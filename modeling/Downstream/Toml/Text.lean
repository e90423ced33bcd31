import Downstream.Text.Digit
import Downstream.Text.Utf8

/-!
# Texts in a document

A text stands between quotes. Between double quotes a backslash starts an escape, between single
quotes all stands for itself. Three quotes let a text go over several lines; a line feed right after
the opening quotes does not count, and up to two quotes may stand right before the closing ones.
Every function here is given what follows the opening quotes and returns the text, with what follows
the closing ones.
-/

namespace Downstream.Toml

/-- A space or a tab. -/
def isBlank (c : Char) : Bool :=
  c = ' ' || c = '\t'

/-- Whether a character may stand in a line: no control character but the tab. -/
def isText (c : Char) : Bool :=
  c = '\t' || (' ' ≤ c && c != '\x7f')

/-- What follows the end of a line, which is a line feed, perhaps after a carriage return. -/
def newline? : List Char → Option (List Char)
  | '\n' :: rest => some rest
  | '\r' :: '\n' :: rest => some rest
  | _ => none

/-- The character that a letter after a backslash stands for. -/
def shortEscape? (c : Char) : Option Char :=
  if c = 'b' then some '\x08'
  else if c = 't' then some '\t'
  else if c = 'n' then some '\n'
  else if c = 'f' then some '\x0c'
  else if c = 'r' then some '\r'
  else if c = 'e' then some '\x1b'
  else if c = '"' then some '"'
  else if c = '\\' then some '\\'
  else none

/-- The character whose number some hexadecimal digits denote. -/
def numbered? (digits : List Char) : Option Char :=
  if digits.all (isDigit 16) then Utf8.scalar? 0 (number 16 digits) else none

/-- Reads a text between double quotes. `done` are its characters so far, the last one first. -/
def basic? (done : List Char) : List Char → Option (List Char × List Char)
  | [] => none
  | '"' :: rest => some (done.reverse, rest)
  | '\\' :: 'x' :: a :: b :: rest =>
    match numbered? [a, b] with
    | some c => basic? (c :: done) rest
    | none => none
  | '\\' :: 'u' :: a :: b :: c :: d :: rest =>
    match numbered? [a, b, c, d] with
    | some c => basic? (c :: done) rest
    | none => none
  | '\\' :: 'U' :: a :: b :: c :: d :: e :: f :: g :: h :: rest =>
    match numbered? [a, b, c, d, e, f, g, h] with
    | some c => basic? (c :: done) rest
    | none => none
  | '\\' :: c :: rest =>
    match shortEscape? c with
    | some c => basic? (c :: done) rest
    | none => none
  | c :: rest => if c != '\\' && isText c then basic? (c :: done) rest else none

/-- Reads a text between single quotes. -/
def literal? (s : List Char) : Option (List Char × List Char) :=
  let body := s.takeWhile (· != '\'')
  match s.dropWhile (· != '\'') with
  | [] => none
  | _ :: rest => if body.all isText then some (body, rest) else none

/-- Where a reader of several lines is: in the text, after a backslash before the end of its line,
or in the blanks after that end. -/
inductive Gap where
  | none
  | line
  | blanks
  deriving Repr, DecidableEq

/-- Reads a text between three double quotes. A backslash at the end of a line takes away that end
and the blanks and ends of lines after it. -/
def multiLineBasic? : Gap → (done : List Char) → List Char → Option (List Char × List Char)
  | _, _, [] => none
  | .line, done, '\r' :: '\n' :: rest => multiLineBasic? .blanks done rest
  | .line, done, c :: rest =>
    if c = '\n' then multiLineBasic? .blanks done rest
    else if isBlank c then multiLineBasic? .line done rest
    else none
  | _, done, '"' :: '"' :: '"' :: rest =>
    match rest with
    | '"' :: '"' :: rest => some (('"' :: '"' :: done).reverse, rest)
    | '"' :: rest => some (('"' :: done).reverse, rest)
    | rest => some (done.reverse, rest)
  | gap, done, '\r' :: '\n' :: rest =>
    if gap = .blanks then multiLineBasic? gap done rest
    else multiLineBasic? .none ('\n' :: '\r' :: done) rest
  | _, done, '\\' :: 'x' :: a :: b :: rest =>
    match numbered? [a, b] with
    | some c => multiLineBasic? .none (c :: done) rest
    | none => none
  | _, done, '\\' :: 'u' :: a :: b :: c :: d :: rest =>
    match numbered? [a, b, c, d] with
    | some c => multiLineBasic? .none (c :: done) rest
    | none => none
  | _, done, '\\' :: 'U' :: a :: b :: c :: d :: e :: f :: g :: h :: rest =>
    match numbered? [a, b, c, d, e, f, g, h] with
    | some c => multiLineBasic? .none (c :: done) rest
    | none => none
  | _, done, '\\' :: c :: rest =>
    match shortEscape? c with
    | some c => multiLineBasic? .none (c :: done) rest
    | none =>
      if c = '\n' then multiLineBasic? .blanks done rest
      else if isBlank c then multiLineBasic? .line done rest
      else if c = '\r' then
        match rest with
        | '\n' :: rest => multiLineBasic? .blanks done rest
        | _ => none
      else none
  | gap, done, c :: rest =>
    if gap = .blanks ∧ (c = '\n' ∨ isBlank c) then multiLineBasic? gap done rest
    else if c = '\n' ∨ (c != '\\' && isText c) then multiLineBasic? .none (c :: done) rest
    else none

/-- Reads a text between three single quotes. -/
def multiLineLiteral? (done : List Char) : List Char → Option (List Char × List Char)
  | [] => none
  | '\'' :: '\'' :: '\'' :: rest =>
    match rest with
    | '\'' :: '\'' :: rest => some (('\'' :: '\'' :: done).reverse, rest)
    | '\'' :: rest => some (('\'' :: done).reverse, rest)
    | rest => some (done.reverse, rest)
  | '\r' :: '\n' :: rest => multiLineLiteral? ('\n' :: '\r' :: done) rest
  | c :: rest => if c = '\n' || isText c then multiLineLiteral? (c :: done) rest else none

/-- Reads a text with its quotes, `none` if no quote is in front. -/
def quoted? (s : List Char) : Option (List Char × List Char) :=
  match s with
  | '"' :: '"' :: '"' :: rest => multiLineBasic? .none [] ((newline? rest).getD rest)
  | '\'' :: '\'' :: '\'' :: rest => multiLineLiteral? [] ((newline? rest).getD rest)
  | '"' :: rest => basic? [] rest
  | '\'' :: rest => literal? rest
  | _ => none

end Downstream.Toml
