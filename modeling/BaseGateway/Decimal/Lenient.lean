import BaseGateway.Decimal.Numeral

/-!
# Reading numbers leniently

Numbers in arguments, of tools and of the command line. The same number may be dressed up in many
ways: an integer may have needless zeros in front and a fraction of zeros, and underscores may split
the digits. The digits are ASCII.
-/

namespace BaseGateway.Decimal.Lenient

/-- White space around a number in a text: blanks but for the information separators. -/
def isPadding (c : Char) : Bool := Text.isBlank c && !(28 ≤ c.toNat && c.toNat ≤ 31)

/-- The text without white space at either end. -/
def unpadded (s : List Char) : List Char :=
  ((s.dropWhile isPadding).reverse.dropWhile isPadding).reverse

/-- Does a pair of underscores stand side by side? -/
def hasDoubleUnderscore : List Char → Bool
  | '_' :: '_' :: _ => true
  | _ :: s => hasDoubleUnderscore s
  | [] => false

/-- The text without its underscores, unless one is at an end or two of them side by side. -/
def withoutUnderscores? (s : List Char) : Option (List Char) :=
  if s.head? == some '_' || s.getLast? == some '_' || !s.contains '_' || hasDoubleUnderscore s then
    none
  else some (s.filter (· != '_'))

/-- Drops the zeros that a numeral begins with, and underscores among them, up to another digit or a
minus; one zero stays when neither follows. -/
def dropLeadingZeros? : List Char → Option (List Char)
  | [] => none
  | c :: rest => if c == '0' then go c rest else if c.isDigit then some (c :: rest) else none
where
  go (before : Char) : List Char → Option (List Char)
    | [] => some [before]
    | c :: rest =>
      if c == '0' || c == '_' then go c rest
      else if c.isDigit || c == '-' then some (c :: rest)
      else if c == '.' then some (before :: c :: rest)
      else none

/-- Drops a point and the zeros behind it, when there are some and nothing else is behind it. -/
def dropZeroFraction (s : List Char) : List Char :=
  match (s.dropWhile (· != '.')).drop 1 with
  | [] => s
  | places => if places.all (· == '0') then s.takeWhile (· != '.') else s

/-- Takes a sign off a text: is it a minus, and what follows it? Another sign may not follow a
plus. -/
def takeSign? : List Char → Option (Bool × List Char)
  | '-' :: rest => some (true, rest)
  | '+' :: rest => if rest.head? == some '-' then none else some (false, rest)
  | s => some (false, s)

/-- A numeral without what does not matter, its minus in front: white space around it, a plus,
leading zeros, a fraction of zeros and single underscores. -/
def plainNumeral? (s : List Char) : Option (List Char) := do
  let (negative, s) ← takeSign? (unpadded s)
  let s := dropZeroFraction (← dropLeadingZeros? s)
  let s := (withoutUnderscores? s).getD s
  return if negative then '-' :: s else s

/-- Digits that do not begin with a needless zero. -/
def plainDigits? : List Char → Option Nat
  | [] => none
  | ['0'] => some 0
  | c :: rest =>
    let digits := c :: rest
    if c != '0' && digits.all Char.isDigit then some (digitsValue digits) else none

/-- The digits that a numeral begins with, counted with its minus. -/
def numeralLength : List Char → Nat
  | '-' :: s => 1 + (s.takeWhile Char.isDigit).length
  | s => (s.takeWhile Char.isDigit).length

/-- Reads an integer. A numeral that is too long is so whatever follows it. -/
def readInt (s : String) : Except IntegerProblem Int :=
  match plainNumeral? s.toList with
  | none => .error .malformed
  | some numeral =>
    let length := numeralLength numeral
    if maxDigits < length then .error (.tooLong length)
    else
      let n? : Option Int := match numeral with
        | '-' :: digits => (plainDigits? digits).map fun n => -(n : Int)
        | digits => (plainDigits? digits).map fun n => (n : Int)
      n?.elim (.error .malformed) .ok

/-- The float that a text without white space around it stands for. -/
def floatOfChars? (s : List Char) : Option Float := do
  let (negative, magnitude) := splitSign s
  let word := String.ofList (magnitude.map Char.toLower)
  let x ←
    if word == "inf" || word == "infinity" then some (1.0 / 0.0)
    else if word == "nan" then some (0.0 / 0.0)
    else readMagnitude? magnitude
  return if negative then -x else x

/-- Reads a float. Underscores are dropped from a text without white space. -/
def readFloat? (s : String) : Option Float :=
  (floatOfChars? (unpadded s.toList)).or ((withoutUnderscores? s.toList).bind floatOfChars?)

end BaseGateway.Decimal.Lenient
