import BaseGateway.Decimal.Layout
import BaseGateway.Decimal.Nearest
import BaseGateway.Text.Character

/-!
# Reading numbers

Integers and floats as people type them: blanks around the number, a sign, digits of any script,
single underscores between digits. Floats also take a point, an exponent, and the words for
infinity and for what is not a number. The information separators do not count as blanks here.
-/

namespace BaseGateway.Decimal

open Text

/-- A character as a number reader sees it: digits of any script in ASCII, blanks outside ASCII as
spaces, and anything else outside ASCII as a mark that no number holds. -/
def asciiForm (c : Char) : Char :=
  if c.toNat < 128 then c
  else if isBlank c then ' '
  else match digitValue? c with
    | some d => Char.ofNat (48 + d)
    | none => '?'

/-- The text without ASCII blanks at either end. -/
def trimAscii (s : List Char) : List Char :=
  ((s.dropWhile isAsciiBlank).reverse.dropWhile isAsciiBlank).reverse

/-- A sign, if one is there, and the rest; `true` for a minus. -/
def splitSign : List Char → Bool × List Char
  | '-' :: s => (true, s)
  | '+' :: s => (false, s)
  | s => (false, s)

/-- The value of a run of ASCII digits, most significant first. -/
def digitsValue (s : List Char) : Nat :=
  s.foldl (fun n c => 10 * n + (c.toNat - 48)) 0

/-- The text without its underscores, when each of them stands between two digits. -/
def dropUnderscores? (s : List Char) : Option (List Char) :=
  go none s
where
  go (before : Option Char) : List Char → Option (List Char)
    | [] => some []
    | '_' :: s =>
      if (before.any Char.isDigit) && (s.head?.any Char.isDigit) then go (some '_') s else none
    | c :: s => (go (some c) s).map (c :: ·)

/-- Why a text is no integer. -/
inductive IntegerProblem where
  | malformed
  | tooLong (digits : Nat)
  deriving DecidableEq, Repr

/-- Reads an integer. -/
def readInt (s : String) : Except IntegerProblem Int :=
  let (negative, body) := splitSign (trimAscii (s.toList.map asciiForm))
  match dropUnderscores? body with
  | none => .error .malformed
  | some digits =>
    if digits.isEmpty || !digits.all Char.isDigit then .error .malformed
    else if maxDigits < digits.length then .error (.tooLong digits.length)
    else .ok (if negative then -(digitsValue digits : Int) else digitsValue digits)

/-- The float nearest to `digits * 10 ^ exp`; exponents far out of range are settled first. -/
def floatOfDigits (digits : Nat) (exp : Int) : Float :=
  if digits = 0 then 0.0
  else
    let size : Int := (natChars digits).length + exp
    if size > 400 then 1.0 / 0.0
    else if size < -400 then 0.0
    else nearestFloat (digits * Nat.pow 10 exp.toNat) (Nat.pow 10 (-exp).toNat)

/-- Reads an unsigned decimal: digits on at least one side of the point, perhaps an exponent. -/
def readMagnitude? (s : List Char) : Option Float :=
  let whole := s.takeWhile Char.isDigit
  let rest := s.dropWhile Char.isDigit
  let (places, rest) := match rest with
    | '.' :: r => (r.takeWhile Char.isDigit, r.dropWhile Char.isDigit)
    | r => ([], r)
  if whole.isEmpty && places.isEmpty then none
  else
    let build (e : Int) := floatOfDigits (digitsValue (whole ++ places)) (e - places.length)
    match rest with
    | [] => some (build 0)
    | mark :: tail =>
      if mark == 'e' || mark == 'E' then
        let (negative, digits) := splitSign tail
        if digits.isEmpty || !digits.all Char.isDigit then none
        else
          let e : Int := digitsValue (digits.dropWhile (· == '0') |>.take 20)
          some (build (if negative then -e else e))
      else none

/-- Reads a float. -/
def readFloat? (s : String) : Option Float := do
  let body ← dropUnderscores? (trimAscii (s.toList.map asciiForm))
  let (negative, magnitude) := splitSign body
  let word := String.ofList (magnitude.map Char.toLower)
  let x ←
    if word == "inf" || word == "infinity" then some (1.0 / 0.0)
    else if word == "nan" then some (0.0 / 0.0)
    else readMagnitude? magnitude
  return if negative then -x else x

end BaseGateway.Decimal
