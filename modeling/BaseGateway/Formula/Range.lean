import BaseGateway.Formula.Age

/-!
# Ranges of numbers and dates

A range of numbers includes its bounds, a range of dates does not. A bound that is not given does
not count.
-/

namespace BaseGateway

/-- A finite number as a formula writes it: a float that is whole without a point. -/
def Number.formulaChars (n : Number) : List Char :=
  match n with
  | .whole n => Decimal.intChars n
  | .real x =>
    match Decimal.Reading.ofFloat x with
    | .finite negative b =>
      if b.isWhole then Decimal.intChars (Decimal.truncate negative b) else Decimal.floatChars x
    | _ => Decimal.floatChars x

/-- The test of a field against a bound. -/
def Formula.bound (name : FieldName) (relation : Relation) (role : String) (bound : Value) :
    Except Failure (List Formula) := do
  if bound.isNull then return []
  else
    let n ← requireFinite bound role
    return [.test name.chars relation (.numeral n.formulaChars)]

/-- The formula for a number between two bounds. -/
def Formula.ofNumbers (field lowest highest : Value) : Except Failure Formula := do
  let name ← Except.orRefused (FieldName.ofValue field)
  let low ← Formula.bound name .atLeast "Minimum value" lowest
  let high ← Formula.bound name .atMost "Maximum value" highest
  return .allOf (low ++ high)

/-- Digits where the shape has a nought, and elsewhere the characters of the shape. -/
def fitsShape : List Char → List Char → Bool
  | [], [] => true
  | p :: shape, c :: s => (if p == '0' then c.isDigit else p == c) && fitsShape shape s
  | _, _ => false

/-- A date, and perhaps a time to the second with anything but a line break behind it. -/
def isIsoDate (s : List Char) : Bool :=
  fitsShape "0000-00-00".toList s ||
    (fitsShape "0000-00-00T00:00:00".toList (s.take 19) && !(s.drop 19).contains '\n')

/-- The test of a field against a date. Nothing, and an empty text, are no bound. -/
def Formula.dateBound (name : FieldName) (function role : String) (bound : Value) :
    Except Refusal (List Formula) :=
  let refusal : Refusal := .invalidInput
    s!"{role} must be in ISO 8601 format (YYYY-MM-DD or YYYY-MM-DDTHH:mm:ss)"
  if !bound.isGiven then .ok []
  else
    match bound with
    | .text s =>
      if isIsoDate s.toList then
        .ok [.call function.toList [.field name.chars, .literal s.toList]]
      else .error refusal
    | _ => .error refusal

/-- The formula for a date between two others. -/
def Formula.ofDates (field first last : Value) : Except Refusal Formula := do
  let name ← FieldName.ofValue field
  let low ← Formula.dateBound name "IS_AFTER" "Start date" first
  let high ← Formula.dateBound name "IS_BEFORE" "End date" last
  return .allOf (low ++ high)

end BaseGateway
