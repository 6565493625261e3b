import BaseGateway.Calendar.DateTime
import BaseGateway.Decimal.Numeral

/-!
# Reading dates and times

The ISO forms of a date, with or without hyphens, by month or by week, and after it any one
character and a time, with or without colons, a fraction after a point or a comma cut to
microseconds, and a distance from Greenwich. Main definition: `DateTime.read?`.
-/

namespace BaseGateway.Calendar

/-- The number that the first `n` characters form, and what follows; all of them must be digits. -/
def takeDigits? (n : Nat) (s : List Char) : Option (Nat × List Char) :=
  let digits := s.take n
  if digits.length = n ∧ digits.all Char.isDigit then
    some (Decimal.digitsValue digits, s.drop n)
  else none

/-- How many characters of a text make up its date. A hyphen after the year asks for hyphens all
through; after a week, a weekday is read unless the digits that follow come in pairs, as those of a
time do. -/
def dateWidth? (s : List Char) : Option Nat :=
  match s.drop 4 with
  | '-' :: 'W' :: _ =>
    match s.drop 8 with
    | ['-'] => none
    | '-' :: _ :: c :: _ => some (if c.isDigit then 8 else 10)
    | '-' :: _ => some 10
    | _ => some 8
  | '-' :: _ => some (if s.length = 7 then 7 else 10)
  | 'W' :: _ =>
    let run := 7 + ((s.drop 7).takeWhile Char.isDigit).length
    some (if run < 9 then run else if run % 2 = 0 then 7 else 8)
  | _ => some (if s.length = 7 then 7 else 8)

/-- The date that a text is, in one of the four forms. -/
def Date.read? (s : List Char) : Option Date := do
  let (year, rest) ← takeDigits? 4 s
  let (hyphens, rest) := match rest with
    | '-' :: r => (true, r)
    | r => (false, r)
  let hyphen? : List Char → Option (List Char)
    | '-' :: r => if hyphens then some r else none
    | r => if hyphens then none else some r
  match rest with
  | 'W' :: r =>
    let (week, rest) ← takeDigits? 2 r
    match rest with
    | [] => Date.ofWeek? year week 1
    | rest =>
      let (weekday, rest) ← takeDigits? 1 (← hyphen? rest)
      if rest.isEmpty then Date.ofWeek? year week weekday else none
  | r =>
    let (month, rest) ← takeDigits? 2 r
    let (day, rest) ← takeDigits? 2 (← hyphen? rest)
    if rest.isEmpty then Date.of? year month day else none

/-- A time of day as it was read: its numbers, and whether it ends where it should. -/
structure ClockReading where
  hour : Nat
  minute : Nat
  second : Nat
  micro : Nat
  complete : Bool

/-- The numbers of a time of day, as many as were given, then a fraction. -/
def ClockReading.ofParts (parts : List Nat) (micro : Nat) (complete : Bool) : ClockReading :=
  ⟨parts.getD 0 0, parts.getD 1 0, parts.getD 2 0, micro, complete⟩

/-- A fraction of a second; digits beyond the sixth are dropped. -/
def readFraction? (parts : List Nat) (s : List Char) : Option ClockReading := do
  let width := min 6 s.length
  let (value, rest) ← takeDigits? width s
  return .ofParts parts (value * Nat.pow 10 (6 - width)) (rest.dropWhile Char.isDigit).isEmpty

/-- Reads the hours, minutes and seconds that are left, `parts` being those read before, and then a
fraction. `colons` tells whether a colon followed the hours. One ASCII character too many at the
end is passed over and noted. -/
def readParts? (colons : Bool) (parts : List Nat) : Nat → List Char → Option ClockReading
  | 0, s => readFraction? parts s
  | left + 1, s => do
    let (value, rest) ← takeDigits? 2 s
    let parts := parts ++ [value]
    match rest with
    | [] => return .ofParts parts 0 true
    | c :: more =>
      let colons := if parts.length = 1 then c == ':' else colons
      if more.isEmpty && c.toNat < 128 then return .ofParts parts 0 false
      else if colons && c == ':' then readParts? colons parts left more
      else if c == '.' || c == ',' then readFraction? parts more
      else if colons then none
      else readParts? colons parts left rest

def ClockReading.micros? (c : ClockReading) : Option Nat :=
  clockMicros? c.hour c.minute c.second c.micro

/-- The distance from Greenwich that the text after a sign gives. A fraction counts only beside
whole seconds. -/
def Offset.read? (west : Bool) (s : List Char) : Option Offset := do
  let c ← readParts? false [] 3 s
  if c.complete then
    let seconds := (c.hour * 60 + c.minute) * 60 + c.second
    let micros : Int := if seconds = 0 then 0 else seconds * 1000000 + c.micro
    Offset.of? (if west then -micros else micros)
  else none

/-- A time of day, and the distance from Greenwich if a sign follows. -/
def readTime? (s : List Char) : Option (Nat × Option Offset) := do
  let isSign (c : Char) : Bool := c == '+' || c == '-'
  let clock ← readParts? false [] 3 (s.takeWhile (!isSign ·))
  match s.dropWhile (!isSign ·) with
  | [] => if clock.complete then return (← clock.micros?, none) else none
  | sign :: rest => return (← clock.micros?, some (← Offset.read? (sign == '-') rest))

/-- Reads a date and perhaps a time after one character of any kind. -/
def DateTime.read? (s : List Char) : Option DateTime := do
  if s.length < 7 then none
  else
    let width ← dateWidth? s
    let date ← Date.read? (s.take width)
    match s.drop width with
    | [] => DateTime.of? date 0 none
    | _ :: time =>
      let (micros, offset) ← readTime? time
      DateTime.of? date micros offset

end BaseGateway.Calendar
