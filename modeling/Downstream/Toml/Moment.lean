import Downstream.Number.Power
import Downstream.Text.Digit

/-!
# Dates and times

A moment is a date, a time of day, or both, then perhaps with an offset from universal time. Each
part holds only what a calendar or a clock shows. `Moment.read?` reads a moment from a whole text
and `Moment.text` writes it.
-/

namespace Downstream.Toml

/-- Whether February has 29 days. -/
def isLeap (year : Nat) : Bool :=
  year % 4 == 0 && (year % 100 != 0 || year % 400 == 0)

/-- The number of days of a month. -/
def daysIn (year month : Nat) : Nat :=
  if month = 2 then (if isLeap year then 29 else 28)
  else if month = 4 ∨ month = 6 ∨ month = 9 ∨ month = 11 then 30
  else 31

/-- A day of the calendar. -/
structure Date where
  year : Nat
  month : Nat
  day : Nat
  valid : year < 10000 ∧ 1 ≤ month ∧ month ≤ 12 ∧ 1 ≤ day ∧ day ≤ daysIn year month
  deriving Repr, DecidableEq

/-- A time of day. A minute may have a 61st second. -/
structure Time where
  hour : Fin 24
  minute : Fin 60
  second : Fin 61
  nanosecond : Fin 1000000000
  deriving Repr, DecidableEq

/-- How far a clock is from universal time. -/
inductive Offset where
  /-- Universal time itself. -/
  | universal
  /-- A number of minutes, either way. -/
  | minutes (n : Int) (valid : n.natAbs < 1440)
  deriving Repr, DecidableEq

/-- A date, a time of day, or both. -/
inductive Moment where
  | date (d : Date)
  | time (t : Time)
  | dateTime (d : Date) (t : Time)
  | offsetDateTime (d : Date) (t : Time) (o : Offset)
  deriving Repr, DecidableEq

/-! ## Reading -/

/-- Reads exactly `count` decimal digits onto the number `n`. -/
def takeDigits : (count n : Nat) → List Char → Option (Nat × List Char)
  | 0, n, s => some (n, s)
  | count + 1, n, c :: rest =>
    match digitValue? 10 c with
    | some d => takeDigits count (n * 10 + d) rest
    | none => none
  | _ + 1, _, [] => none

/-- Reads one given character. -/
def takeChar (c : Char) : List Char → Option (List Char)
  | d :: rest => if c = d then some rest else none
  | [] => none

namespace Date

/-- The date of a year, a month and a day. -/
def of? (year month day : Nat) : Option Date :=
  if h : year < 10000 ∧ 1 ≤ month ∧ month ≤ 12 ∧ 1 ≤ day ∧ day ≤ daysIn year month then
    some ⟨year, month, day, h⟩
  else none

/-- Reads a date: four digits of the year, two of the month and two of the day. -/
def take? (s : List Char) : Option (Date × List Char) := do
  let (year, s) ← takeDigits 4 0 s
  let s ← takeChar '-' s
  let (month, s) ← takeDigits 2 0 s
  let s ← takeChar '-' s
  let (day, s) ← takeDigits 2 0 s
  let date ← of? year month day
  return (date, s)

/-- A date in digits. -/
def text (d : Date) : List Char :=
  paddedDigits 4 d.year ++ '-' :: paddedDigits 2 d.month ++ '-' :: paddedDigits 2 d.day

end Date

namespace Time

/-- A number below a bound. -/
def below? (bound n : Nat) : Option (Fin bound) :=
  if h : n < bound then some ⟨n, h⟩ else none

/-- Reads the fraction of a second, if there is one. Digits after the ninth do not count. -/
def takeFraction? (s : List Char) : Option (Fin 1000000000 × List Char) :=
  match s with
  | '.' :: rest =>
    let ds := rest.takeWhile (isDigit 10)
    if ds.isEmpty then none
    else do
      let shown := ds.take 9
      let nanosecond ← below? _ (number 10 shown * tenTo (9 - shown.length))
      return (nanosecond, rest.dropWhile (isDigit 10))
  | s => some (0, s)

/-- Reads a time of day. The seconds may be left out, being zero then. -/
def take? (s : List Char) : Option (Time × List Char) := do
  let (hour, s) ← takeDigits 2 0 s
  let hour ← below? _ hour
  let s ← takeChar ':' s
  let (minute, s) ← takeDigits 2 0 s
  let minute ← below? _ minute
  match takeChar ':' s with
  | none => return (⟨hour, minute, 0, 0⟩, s)
  | some s =>
    let (second, s) ← takeDigits 2 0 s
    let second ← below? _ second
    let (nanosecond, s) ← takeFraction? s
    return (⟨hour, minute, second, nanosecond⟩, s)

/-- Without the zeros at its end. -/
def trimZeros (ds : List Char) : List Char :=
  (ds.reverse.dropWhile (· = '0')).reverse

/-- A time of day in digits; a fraction of zero is left out. -/
def text (t : Time) : List Char :=
  paddedDigits 2 t.hour.val ++ ':' :: paddedDigits 2 t.minute.val ++
    ':' :: paddedDigits 2 t.second.val ++
    if t.nanosecond.val = 0 then [] else '.' :: trimZeros (paddedDigits 9 t.nanosecond.val)

end Time

namespace Offset

/-- The offset of a number of minutes. -/
def of? (n : Int) : Option Offset :=
  if h : n.natAbs < 1440 then some (.minutes n h) else none

/-- Reads hours and minutes. -/
def takeClock? (s : List Char) : Option (Nat × List Char) := do
  let (hours, s) ← takeDigits 2 0 s
  let s ← takeChar ':' s
  let (rest, s) ← takeDigits 2 0 s
  if hours < 24 ∧ rest < 60 then return (hours * 60 + rest, s) else none

/-- Reads an offset. -/
def take? : List Char → Option (Offset × List Char)
  | c :: rest =>
    if c = 'Z' ∨ c = 'z' then some (.universal, rest)
    else if c = '+' ∨ c = '-' then do
      let (n, rest) ← takeClock? rest
      let o ← of? (if c = '-' then -(n : Int) else n)
      return (o, rest)
    else none
  | [] => none

/-- An offset in digits, or `Z`. -/
def text : Offset → List Char
  | universal => ['Z']
  | minutes n _ =>
    (if n < 0 then '-' else '+') ::
      (paddedDigits 2 (n.natAbs / 60) ++ ':' :: paddedDigits 2 (n.natAbs % 60))

end Offset

namespace Moment

/-- What follows a date: nothing, or a time of day that `T` or a space sets off, and perhaps an
offset. -/
def afterDate? (d : Date) : List Char → Option Moment
  | [] => some (.date d)
  | c :: rest =>
    if c = 'T' ∨ c = 't' ∨ c = ' ' then
      match Time.take? rest with
      | none => none
      | some (t, []) => some (.dateTime d t)
      | some (t, rest) =>
        match Offset.take? rest with
        | some (o, []) => some (.offsetDateTime d t o)
        | _ => none
    else none

/-- Reads a moment from all of a text. -/
def read? (s : List Char) : Option Moment :=
  match Date.take? s with
  | some (d, rest) => afterDate? d rest
  | none =>
    match Time.take? s with
    | some (t, []) => some (.time t)
    | _ => none

/-- A moment in digits. -/
def text : Moment → List Char
  | date d => d.text
  | time t => t.text
  | dateTime d t => d.text ++ 'T' :: t.text
  | offsetDateTime d t o => d.text ++ 'T' :: t.text ++ o.text

end Moment

end Downstream.Toml
