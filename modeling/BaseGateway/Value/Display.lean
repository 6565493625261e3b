import BaseGateway.Value.Basic
import BaseGateway.Text.Quoted

/-!
# Values as text

A value as it is shown by itself, where a text stands for itself, and as it is shown inside another
value, where texts are quoted. An integer with too many digits has no text, nor has anything that
holds one.
-/

namespace BaseGateway

/-- A length of time in whole days and the seconds left over, as it is shown inside a value. -/
def spanChars (micros : Int) : List Char :=
  let part (name : String) (n : Int) : List (List Char) :=
    if n = 0 then [] else [name.toList ++ '=' :: Decimal.intChars n]
  let perDay : Int := Calendar.dayLength
  let parts := part "days" (micros.fdiv perDay) ++
    part "seconds" (micros.fmod perDay / 1000000) ++ part "microseconds" (micros.fmod 1000000)
  "datetime.timedelta(".toList ++
    (if parts.isEmpty then ['0'] else [',', ' '].intercalate parts) ++ [')']

/-- A date inside a value: its numbers. -/
def Calendar.Date.partChars (d : Date) : List (List Char) :=
  [d.year, d.month, d.day].map Decimal.natChars

def Calendar.Date.quotedChars (d : Date) : List Char :=
  "datetime.date(".toList ++ [',', ' '].intercalate d.partChars ++ [')']

/-- A date with a time inside a value: its numbers, seconds and microseconds only where needed. -/
def Calendar.DateTime.quotedChars (t : DateTime) : List Char :=
  let second := t.micros / 1000000 % 60
  let micro := t.micros % 1000000
  let clock := [t.micros / 3600000000, t.micros / 60000000 % 60] ++
    (if second = 0 ∧ micro = 0 then [] else [second]) ++ (if micro = 0 then [] else [micro])
  let zone := match t.offset with
    | none => []
    | some o =>
      ["tzinfo=".toList ++ (if o.micros = 0 then "datetime.timezone.utc".toList
        else "datetime.timezone(".toList ++ spanChars o.micros ++ [')'])]
  "datetime.datetime(".toList ++
    [',', ' '].intercalate (t.date.partChars ++ clock.map Decimal.natChars ++ zone) ++ [')']

namespace Value

mutual

/-- The characters of a value inside another one. -/
def quotedChars? : Value → Option (List Char)
  | .null => some "None".toList
  | .bool b => some (if b then "True" else "False").toList
  | .int n => (Decimal.intText? n).map String.toList
  | .float x => some (Decimal.floatChars x)
  | .text s => some (Text.quotedChars s.toList)
  | .list items =>
    (itemChars? items).map fun parts => '[' :: ([',', ' '].intercalate parts ++ [']'])
  | .dictionary entries => (entryChars? entries).map fun parts =>
      '\x7b' :: ([',', ' '].intercalate parts ++ ['\x7d'])
  | .date d => some d.quotedChars
  | .dateTime t => some t.quotedChars

def itemChars? : List Value → Option (List (List Char))
  | [] => some []
  | v :: rest => do return (← quotedChars? v) :: (← itemChars? rest)

def entryChars? : List (Value × Value) → Option (List (List Char))
  | [] => some []
  | (key, v) :: rest => do
    return ((← quotedChars? key) ++ ':' :: ' ' :: (← quotedChars? v)) :: (← entryChars? rest)

end

/-- A value as it is shown inside another one. -/
def quoted? (v : Value) : Option String := (quotedChars? v).map String.ofList

/-- A value as it is shown by itself. -/
def text? : Value → Option String
  | .text s => some s
  | .date d => some d.text
  | .dateTime t => some t.text
  | v => v.quoted?

end Value

end BaseGateway
