import BaseGateway.Decimal.Layout

/-!
# Dates

Days of the proleptic Gregorian calendar from year 1 to year 9999, their number since the first of
them, and the weeks of the ISO calendar, which begin on Mondays and belong to the year of their
Thursday.
-/

namespace BaseGateway.Calendar

def isLeap (year : Nat) : Bool := year % 4 == 0 && (year % 100 != 0 || year % 400 == 0)

def daysInMonth (year month : Nat) : Nat :=
  match month with
  | 2 => if isLeap year then 29 else 28
  | 4 | 6 | 9 | 11 => 30
  | _ => 31

/-- A year from 1 to 9999, a month of it and a day of that month. -/
def IsDay (year month day : Nat) : Prop :=
  1 ≤ year ∧ year ≤ 9999 ∧ 1 ≤ month ∧ month ≤ 12 ∧ 1 ≤ day ∧ day ≤ daysInMonth year month

instance (year month day : Nat) : Decidable (IsDay year month day) :=
  inferInstanceAs (Decidable (_ ∧ _))

structure Date where
  year : Nat
  month : Nat
  day : Nat
  isDay : IsDay year month day
  deriving DecidableEq, Repr

def Date.of? (year month day : Nat) : Option Date :=
  if h : IsDay year month day then some ⟨year, month, day, h⟩ else none

/-- The days of the years before this one. -/
def daysBeforeYear (year : Nat) : Nat :=
  let y := year - 1
  365 * y + y / 4 - y / 100 + y / 400

/-- The month and day of the `n`-th day of a year, counted from nought, looking from a given month
on. -/
def monthFrom (year : Nat) : Nat → Nat → Nat → Option (Nat × Nat)
  | 0, _, _ => none
  | fuel + 1, month, n =>
    if n < daysInMonth year month then some (month, n + 1)
    else monthFrom year fuel (month + 1) (n - daysInMonth year month)

/-- The date of the `n`-th day of a year, counted from nought; a count beyond the year runs on into
the next one. -/
def Date.ofYearDay? (year n : Nat) : Option Date :=
  let length := if isLeap year then 366 else 365
  let (year, n) := if n < length then (year, n) else (year + 1, n - length)
  (monthFrom year 12 1 n).bind fun (month, day) => Date.of? year month day

/-- The weekday of the first of January, nought for Monday. -/
def firstWeekday (year : Nat) : Nat := daysBeforeYear year % 7

/-- Weeks of an ISO year: 53 when its first day is a Thursday, or a Wednesday in a leap year. -/
def weeksInYear (year : Nat) : Nat :=
  if firstWeekday year == 3 || (firstWeekday year == 2 && isLeap year) then 53 else 52

/-- The date of a weekday, 1 for Monday, in a week of an ISO year. -/
def Date.ofWeek? (year week weekday : Nat) : Option Date :=
  if 1 ≤ year ∧ 1 ≤ week ∧ week ≤ weeksInYear year ∧ 1 ≤ weekday ∧ weekday ≤ 7 then
    let first := firstWeekday year
    let offset := 7 * (week - 1) + (weekday - 1)
    -- the first week begins on the Monday next to the first of January
    if first ≤ 3 then
      if offset < first then
        Date.of? (year - 1) 12 (31 - (first - 1 - offset))
      else Date.ofYearDay? year (offset - first)
    else Date.ofYearDay? year (offset + 7 - first)
  else none

/-- A natural in decimal, with zeros in front up to a width. -/
def padded (width n : Nat) : List Char :=
  let digits := Decimal.natChars n
  List.replicate (width - digits.length) '0' ++ digits

def Date.chars (d : Date) : List Char :=
  padded 4 d.year ++ '-' :: padded 2 d.month ++ '-' :: padded 2 d.day

/-- Year, month and day between hyphens. -/
def Date.text (d : Date) : String := String.ofList d.chars

end BaseGateway.Calendar
