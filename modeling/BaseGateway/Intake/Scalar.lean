import BaseGateway.Decimal.Lenient
import BaseGateway.Intake.Checked
import BaseGateway.Value.Basic

/-!
# Scalar arguments

Texts, whole numbers, truth values and finite numbers. A language model fills in the arguments, so a
whole number may also come as a float without a fraction or as a text, and a truth value as a word;
what is not clearly such a value is an issue.
-/

namespace BaseGateway.Intake

/-- A text. -/
def text (v : Value) : Checked String :=
  match v with
  | .text s => .valid s
  | _ => .issue "Input should be a valid string"

/-- A text of a limited length. -/
def textUpTo (limit : Nat) (v : Value) : Checked String :=
  (text v).check fun s =>
    if s.length ≤ limit then .valid s
    else .issue s!"String should have at most {limit} characters"

/-- Floats beyond the 64-bit integers are not taken for whole numbers. -/
def integerOfFloat (x : Float) : Checked Int :=
  match Decimal.Reading.ofFloat x with
  | .finite negative b =>
    if !b.isWhole then
      .issue "Input should be a valid integer, got a number with a fractional part"
    else if b.floor < Nat.pow 2 63 then .valid (Decimal.truncate negative b)
    else .issue "Unable to parse input string as an integer, exceeded maximum size"
  | _ => .issue "Input should be a finite number"

/-- A whole number. -/
def integer (v : Value) : Checked Int :=
  match v with
  | .bool b => .valid b.toInt
  | .int n => .valid n
  | .float x => integerOfFloat x
  | .text s =>
    match Decimal.Lenient.readInt s with
    | .ok n => .valid n
    | .error (.tooLong _) =>
      .issue "Unable to parse input string as an integer, exceeded maximum size"
    | .error .malformed =>
      .issue "Input should be a valid integer, unable to parse string as an integer"
  | _ => .issue "Input should be a valid integer"

/-- A whole number between two bounds. -/
def integerIn (low high : Int) (v : Value) : Checked Int :=
  (integer v).check fun n =>
    if n < low then .issue s!"Input should be greater than or equal to {low}"
    else if high < n then .issue s!"Input should be less than or equal to {high}"
    else .valid n

/-- A whole number above nought and up to a bound. -/
def positiveUpTo (high : Int) (v : Value) : Checked Int :=
  (integer v).check fun n =>
    if n ≤ 0 then .issue "Input should be greater than 0"
    else if high < n then .issue s!"Input should be less than or equal to {high}"
    else .valid n

/-- The truth value that a word stands for, in any case. -/
def truthOfWord? (s : String) : Option Bool :=
  let word := String.ofList (s.toList.map Char.toLower)
  if ["0", "f", "n", "no", "off", "false"].contains word then some false
  else if ["1", "t", "y", "on", "yes", "true"].contains word then some true
  else none

/-- A truth value. Numbers other than nought and one stand for none. -/
def truth (v : Value) : Checked Bool :=
  let unclear : Checked Bool := .issue "Input should be a valid boolean, unable to interpret input"
  let wrong : Checked Bool := .issue "Input should be a valid boolean"
  let ofInteger (n : Int) : Checked Bool :=
    if n = 0 then .valid false else if n = 1 then .valid true else unclear
  match v with
  | .bool b => .valid b
  | .text s => match truthOfWord? s with
    | some b => .valid b
    | none => unclear
  | .int n => if -(Nat.pow 2 63 : Int) ≤ n ∧ n < Nat.pow 2 63 then ofInteger n else wrong
  | .float x => match integerOfFloat x with
    | .valid n => ofInteger n
    | .flawed .. => wrong
  | _ => wrong

/-- A number that is neither infinite nor undefined. -/
def finiteNumber (v : Value) : Checked Float :=
  let finite (x : Float) : Checked Float :=
    if x.isFinite then .valid x else .issue "Input should be a finite number"
  match v with
  | .float x => finite x
  | .bool b => .valid (Decimal.floatOfInt b.toInt)
  | .int n =>
    if n.natAbs < Decimal.beyondDoubles then .valid (Decimal.floatOfInt n)
    else .issue "Input should be a valid number"
  | .text s => match Decimal.Lenient.readFloat? s with
    | some x => finite x
    | none => .issue "Input should be a valid number, unable to parse string as a number"
  | _ => .issue "Input should be a valid number"

/-- Alternatives as they are listed in an issue: each quoted, the last behind an "or". -/
def listed : List String → String
  | [] => ""
  | [a] => s!"'{a}'"
  | [a, b] => s!"'{a}' or '{b}'"
  | a :: rest => s!"'{a}', {listed rest}"

/-- One of several named alternatives. -/
def oneOf {α : Type} (table : List (String × α)) (v : Value) : Checked α :=
  let found : Option (String × α) :=
    v.asText?.bind fun s => table.find? fun (name, _) => name == s
  match found with
  | some (_, x) => .valid x
  | none => .issue ("Input should be " ++ listed (table.map Prod.fst))

end BaseGateway.Intake
