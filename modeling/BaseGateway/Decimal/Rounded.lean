import BaseGateway.Decimal.Layout
import BaseGateway.Decimal.Nearest

/-!
# Rounded numbers as text

A set number of places, or six significant digits with trailing zeros dropped. The exact binary
value is rounded, and a tie goes to the even neighbour.
-/

namespace BaseGateway.Decimal

/-- A magnitude in units of `10 ^ unit`, rounded. -/
def Binary.rounded (x : Binary) (unit : Int) : Nat :=
  let (num, den) := x.inUnits unit
  roundQuotient num den

/-- A float with a set number of places, at least one. -/
def fixedText (places : Nat) (x : Float) : String :=
  match Reading.ofFloat x with
  | .nan => "nan"
  | .infinite negative => if negative then "-inf" else "inf"
  | .finite negative b =>
    let digits := natChars (b.rounded (-places))
    let padded := List.replicate (places + 1 - digits.length) '0' ++ digits
    let whole := padded.length - places
    let sign := if negative then ['-'] else []
    String.ofList (sign ++ padded.take whole ++ '.' :: padded.drop whole)

/-- The digits without trailing zeros, and at least one of them. -/
def dropZeros (digits : List Char) : List Char :=
  match (digits.reverse.dropWhile (· == '0')).reverse with
  | [] => ['0']
  | kept => kept

/-- Digits with a point after the first `point` of them, the point left out when nothing follows. -/
def pointedShort (digits : List Char) (point : Int) : List Char :=
  if point ≤ 0 then '0' :: '.' :: (List.replicate (-point).toNat '0' ++ digits)
  else if (digits.length : Int) ≤ point then
    digits ++ List.replicate (point.toNat - digits.length) '0'
  else digits.take point.toNat ++ '.' :: digits.drop point.toNat

/-- A float with six significant digits, trailing zeros dropped. -/
def generalText (x : Float) : String :=
  match Reading.ofFloat x with
  | .nan => "nan"
  | .infinite negative => if negative then "-inf" else "inf"
  | .finite negative b =>
    let sign := if negative then ['-'] else []
    if b.m = 0 then String.ofList (sign ++ ['0']) else
    let k := b.scale
    let first := b.rounded (k - 6)
    let (digits, e) := if first = Nat.pow 10 6 then (Nat.pow 10 5, k) else (first, k - 1)
    let kept := dropZeros (natChars digits)
    String.ofList (sign ++
      (if -4 ≤ e ∧ e < 6 then pointedShort kept (e + 1) else scientific kept e))

end BaseGateway.Decimal
