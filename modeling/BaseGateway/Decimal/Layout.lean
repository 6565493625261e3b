import BaseGateway.Decimal.Shortest

/-!
# Numbers as text

Floats are written with the fewest digits that read back: positionally, always with a point, from
`0.0001` up to below `10 ^ 16`, and otherwise with a signed exponent of at least two digits.
Integers are written in decimal; beyond 4300 digits they are refused.
-/

namespace BaseGateway.Decimal

/-- No integer of more digits is written or read in decimal. -/
def maxDigits : Nat := 4300

def natChars (n : Nat) : List Char := Nat.toDigits 10 n

/-- An integer in decimal, of any length. -/
def intChars (n : Int) : List Char :=
  if n < 0 then '-' :: natChars n.natAbs else natChars n.natAbs

/-- An integer in decimal, unless it has too many digits. -/
def intText? (n : Int) : Option String :=
  if n.natAbs < Nat.pow 10 maxDigits then some (String.ofList (intChars n)) else none

/-- A signed exponent of at least two digits. -/
def exponentChars (e : Int) : List Char :=
  let digits := natChars e.natAbs
  'e' :: (if e < 0 then '-' else '+') :: (if digits.length < 2 then '0' :: digits else digits)

/-- Digits with a point after the first `point` of them, padded with zeros where needed. -/
def pointed (digits : List Char) (point : Int) : List Char :=
  if point ≤ 0 then '0' :: '.' :: (List.replicate (-point).toNat '0' ++ digits)
  else if (digits.length : Int) ≤ point then
    digits ++ List.replicate (point.toNat - digits.length) '0' ++ ['.', '0']
  else digits.take point.toNat ++ '.' :: digits.drop point.toNat

/-- One digit before the point, and the point left out when nothing follows it. -/
def scientific (digits : List Char) (e : Int) : List Char :=
  match digits with
  | [] => exponentChars e
  | [d] => d :: exponentChars e
  | d :: rest => d :: '.' :: (rest ++ exponentChars e)

/-- The layout of a positive decimal. -/
def Digits.chars (d : Digits) : List Char :=
  let digits := natChars d.digits
  let e : Int := (digits.length : Int) - 1 + d.exp
  if -4 ≤ e ∧ e < 16 then pointed digits (e + 1) else scientific digits e

/-- The characters of a float. -/
def floatChars (x : Float) : List Char :=
  match Reading.ofFloat x with
  | .nan => "nan".toList
  | .infinite negative => (if negative then "-inf" else "inf").toList
  | .finite negative b =>
    (if negative then ['-'] else []) ++ (if b.m = 0 then "0.0".toList else b.shortest.chars)

/-- A float as text. -/
def floatText (x : Float) : String := String.ofList (floatChars x)

end BaseGateway.Decimal
