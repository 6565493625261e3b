import BaseGateway.Decimal.Binary

/-!
# The nearest double

A positive quotient of naturals is rounded to the nearest double, a tie to the one with the even
significand. The work is done on exact naturals: the quotient is measured in units of the last
place, rounded once, and the fields of the double are put together from the result.
-/

namespace BaseGateway.Decimal

/-- The quotient rounded to the nearest natural, a tie to the even one. -/
def roundQuotient (num den : Nat) : Nat :=
  let q := num / den
  match compare (2 * (num % den)) den with
  | .lt => q
  | .gt => q + 1
  | .eq => if q % 2 = 0 then q else q + 1

/-- The greatest `e` with `2 ^ e ≤ num / den`, for positive naturals: the difference of their binary
lengths, or one less. -/
def quotientScale (num den : Nat) : Int :=
  let e : Int := (num.log2 : Int) - den.log2
  if den * Nat.pow 2 e.toNat ≤ num * Nat.pow 2 (-e).toNat then e else e - 1

/-- The bits of infinity, above those of every finite magnitude. -/
def infiniteBits : Nat := 2047 * Nat.pow 2 52

/-- The bits of the double nearest to a positive quotient. The exponent field and the fraction stand
next to each other, so a fraction that rounds up to a power of two carries into the exponent. -/
def nearestBits (num den : Nat) : Nat :=
  let unit := max (quotientScale num den - 52) (-1074)
  let m := roundQuotient (num * Nat.pow 2 (-unit).toNat) (den * Nat.pow 2 unit.toNat)
  min ((unit + 1074).toNat * Nat.pow 2 52 + m) infiniteBits

/-- The double nearest to a quotient of a natural and a positive one. -/
def nearestFloat (num den : Nat) : Float :=
  if num = 0 then 0.0 else Float.ofBits (nearestBits num den).toUInt64

/-- The double nearest to an integer. -/
def floatOfInt (n : Int) : Float :=
  let x := nearestFloat n.natAbs 1
  if n < 0 then -x else x

end BaseGateway.Decimal
