import BaseGateway.Calendar.Date

/-!
# Dates with a time of day

A time of day counts to the microsecond and may name its distance from Greenwich, which is less
than a day either way.
-/

namespace BaseGateway.Calendar

/-- Microseconds of a day. -/
def dayLength : Nat := 86400000000

/-- A distance from Greenwich in microseconds, east counting up. -/
structure Offset where
  micros : Int
  inRange : micros.natAbs < dayLength
  deriving DecidableEq, Repr

/-- A time of day in microseconds since midnight. -/
structure DateTime where
  date : Date
  micros : Nat
  offset : Option Offset
  inDay : micros < dayLength
  deriving DecidableEq, Repr

/-- The microseconds of a time of day on a clock of 24 hours. -/
def clockMicros? (hour minute second micro : Nat) : Option Nat :=
  if hour < 24 ∧ minute < 60 ∧ second < 60 ∧ micro < 1000000 then
    some (((hour * 60 + minute) * 60 + second) * 1000000 + micro)
  else none

def Offset.of? (micros : Int) : Option Offset :=
  if h : micros.natAbs < dayLength then some ⟨micros, h⟩ else none

def DateTime.of? (date : Date) (micros : Nat) (offset : Option Offset) : Option DateTime :=
  if h : micros < dayLength then some ⟨date, micros, offset, h⟩ else none

/-- Hours and minutes, and the rest where asked for or not nought: seconds, and six places of a
fraction. -/
def clockChars (always : Bool) (micros : Nat) : List Char :=
  let seconds := micros / 1000000
  let fraction := micros % 1000000
  padded 2 (seconds / 3600) ++ ':' :: padded 2 (seconds / 60 % 60) ++
    (if always || micros % 60000000 ≠ 0 then ':' :: padded 2 (seconds % 60) else []) ++
    (if fraction ≠ 0 then '.' :: padded 6 fraction else [])

def Offset.chars (o : Offset) : List Char :=
  (if o.micros < 0 then '-' else '+') :: clockChars false o.micros.natAbs

def DateTime.chars (separator : Char) (t : DateTime) : List Char :=
  t.date.chars ++ separator :: clockChars true t.micros ++
    (match t.offset with | none => [] | some o => o.chars)

/-- Date and time with a `T` between them. -/
def DateTime.isoText (t : DateTime) : String := String.ofList (t.chars 'T')

/-- Date and time with a space between them. -/
def DateTime.text (t : DateTime) : String := String.ofList (t.chars ' ')

end BaseGateway.Calendar
