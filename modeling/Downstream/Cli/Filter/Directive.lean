import Downstream.Cli.Filter.Threshold
import Downstream.Pattern.Textual
import Downstream.Text.Split

/-!
# Directives

A directive is a threshold alone, or `target[span{field=value}]=threshold` with most of it left out:
it is about the events from one part of the program, the target, which come in a span of a name with
a field of a value. Without a threshold everything is shown.

Blanks around a directive count neither for its beginning nor for the places of its words; yet the
words are taken from the text with its blanks, at those places.
-/

namespace Downstream.Cli

/-- What a directive says of a field. -/
structure FieldTest where
  name : String
  /-- Whether the field has to have some value too. -/
  hasValue : Bool
  deriving Repr, DecidableEq

/-- A directive. -/
structure Directive where
  /-- The front of the name of a part of the program. -/
  target : Option String := none
  span : Option String := none
  field : Option FieldTest := none
  threshold : Threshold := .trace
  deriving Repr, DecidableEq

/-! ## Values of fields -/

/-- Whether a text is a number without a sign: digits, perhaps with a point or an exponent, or a
word for what is no decimal. -/
def isUnsignedNumber (s : List Char) : Bool :=
  let isMark (c : Char) : Bool := c = 'e' || c = 'E'
  let mantissa := s.takeWhile fun c => !isMark c
  let digits := mantissa.filter (· != '.')
  let exponent := match (s.dropWhile fun c => !isMark c).drop 1 with
    | '+' :: rest => rest
    | '-' :: rest => rest
    | rest => rest
  let hasExponent := s.any isMark
  let isDecimal := !digits.isEmpty && digits.all (isDigit 10) && mantissa.count '.' ≤ 1 &&
    (!hasExponent || (!exponent.isEmpty && exponent.all (isDigit 10)))
  isDecimal || ["inf", "infinity", "nan"].any fun w => w.toList = s.map Char.toLower

/-- Whether a text may stand for the value of a field: a number, or a pattern for texts. A number
without a plus sign in front is such a pattern as well. -/
def isFieldValue (s : List Char) : Bool :=
  (match s with
    | '+' :: rest => isUnsignedNumber rest
    | _ => false) ||
    ((Pattern.Form.read? (String.ofList s)).any Pattern.Form.isTextual)

/-- The test of a field that a text between braces says. What follows a second equals sign does not
count. -/
def FieldTest.ofText? (s : List Char) : Option FieldTest :=
  match s, parts '=' s with
  | [], _ => none
  | _, [name] => some ⟨String.ofList name, false⟩
  | _, name :: value :: _ =>
    if isFieldValue value then some ⟨String.ofList name, true⟩ else none
  | _, [] => none

/-! ## Reading directives -/

/-- A text whose words are taken by the places of their bytes. -/
structure Words where
  bytes : Bytes

/-- The word from `start` up to, but not including, `stop`; `none` if a character is cut. -/
def Words.between? (w : Words) (start stop : Nat) : Option (List Char) :=
  Utf8.toChars? ((w.bytes.drop start).take (stop - start))

/-- The word from `start` to the end; `none` if a character is cut. -/
def Words.after? (w : Words) (start : Nat) : Option (List Char) :=
  Utf8.toChars? (w.bytes.drop start)

namespace Directive

/-- Where in a directive one is; of a word it tells where the word started. -/
inductive Position where
  | beginning
  /-- In a target, or in a threshold that stands alone. -/
  | target (start : Nat)
  | span (start : Nat)
  | field (start : Nat)
  /-- After a closing brace. -/
  | fieldEnd
  /-- After a closing bracket. -/
  | spanEnd
  | threshold (start : Nat)
  deriving Repr, DecidableEq

/-- Whether a character may start the name of a target. -/
def startsTarget (c : Char) : Bool :=
  c = '-' || c = ':' || c = '_' || Unicode.Latest.alphanumeric.has c.toNat

/-- Takes in a character at a place, given what is known of the directive. -/
def step (w : Words) (d : Directive) (p : Position) (place : Nat) (c : Char) :
    Option (Directive × Position) :=
  match p, c with
  | .beginning, '[' => some (d, .span (place + 1))
  | .beginning, c => if startsTarget c then some (d, .target place) else none
  | .target start, '=' => do
    let t ← w.between? start place
    return ({ d with target := some (String.ofList t) }, .threshold (place + 1))
  | .target start, '[' => do
    let t ← w.between? start place
    return ({ d with target := some (String.ofList t) }, .span (place + 1))
  | .span start, ']' => do
    let s ← w.between? start place
    return ({ d with span := some (String.ofList s) }, .spanEnd)
  | .span start, '\x7b' => do
    let s ← w.between? start place
    return ({ d with span := if s.isEmpty then none else some (String.ofList s) },
      .field (place + 1))
  | .field start, '\x7d' => do
    let f ← FieldTest.ofText? (← w.between? start place)
    return ({ d with field := some f }, .fieldEnd)
  | .fieldEnd, ']' => some (d, .spanEnd)
  | .fieldEnd, _ => none
  | .spanEnd, '=' => some (d, .threshold (place + 1))
  | .spanEnd, _ => none
  | p, _ => some (d, p)

/-- Takes in the characters from a place on. -/
def steps (w : Words) (d : Directive) (p : Position) (place : Nat) :
    List Char → Option (Directive × Position)
  | [] => some (d, p)
  | c :: rest => do
    let (d, p) ← step w d p place c
    steps w d p (place + c.utf8Size) rest

/-- The directive that ends at a position. -/
def finish (w : Words) (d : Directive) : Position → Option Directive
  | .target start => do
    let word ← w.after? start
    match Threshold.ofText? word with
    | some t => return { d with threshold := t }
    | none => return { d with target := some (String.ofList word) }
  | .threshold start => do
    let word ← w.after? start
    if word.isEmpty then return d else return { d with threshold := ← Threshold.ofText? word }
  | .spanEnd => some d
  | _ => none

/-- The directive that a text is. -/
def ofText? (s : List Char) : Option Directive := do
  let isBlank := Unicode.Property.isBlank
  let trimmed := ((s.dropWhile isBlank).reverse.dropWhile isBlank).reverse
  let w : Words := ⟨Utf8.ofChars s⟩
  let (d, p) ← steps w {} .beginning 0 trimmed
  finish w d p

end Directive

end Downstream.Cli
