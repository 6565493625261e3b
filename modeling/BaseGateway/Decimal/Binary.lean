/-!
# Binary floating-point values as exact numbers

A double is either not a number, an infinity, or a sign and a magnitude `m * 2 ^ q`. All decisions
about digits are taken on the exact magnitude.
-/

namespace BaseGateway.Decimal

/-- A finite magnitude `m * 2 ^ q`. -/
structure Binary where
  m : Nat
  q : Int
  /-- The gap to the value below is half the gap to the value above. -/
  narrowBelow : Bool
  deriving DecidableEq, Repr

/-- What a double stands for. -/
inductive Reading where
  | nan
  | infinite (negative : Bool)
  | finite (negative : Bool) (magnitude : Binary)
  deriving DecidableEq, Repr

/-- The magnitude of the exponent and fraction fields of a finite double. -/
def Binary.ofFields (exponent fraction : Nat) : Binary :=
  if exponent = 0 then ⟨fraction, -1074, false⟩
  else ⟨Nat.pow 2 52 + fraction, (exponent : Int) - 1075, fraction == 0 && exponent > 1⟩

/-- Reads the sign, exponent and fraction of a double. -/
def Reading.ofFloat (x : Float) : Reading :=
  let bits := x.toBits.toNat
  let negative := bits / Nat.pow 2 63 == 1
  let exponent := bits / Nat.pow 2 52 % Nat.pow 2 11
  let fraction := bits % Nat.pow 2 52
  if exponent = 2047 then (if fraction = 0 then .infinite negative else .nan)
  else .finite negative (.ofFields exponent fraction)

/-- Compares `a * 10 ^ i` with `n * 2 ^ j`. -/
def compareScaled (a : Nat) (i : Int) (n : Nat) (j : Int) : Ordering :=
  compare (a * Nat.pow 10 i.toNat * Nat.pow 2 (-j).toNat)
    (n * Nat.pow 2 j.toNat * Nat.pow 10 (-i).toNat)

/-- The magnitude without its fraction. -/
def Binary.floor (x : Binary) : Nat := x.m * Nat.pow 2 x.q.toNat / Nat.pow 2 (-x.q).toNat

/-- Is the magnitude a whole number? -/
def Binary.isWhole (x : Binary) : Bool := x.m * Nat.pow 2 x.q.toNat % Nat.pow 2 (-x.q).toNat == 0

/-- The order of a finite value and an integer. -/
def compareInt (negative : Bool) (x : Binary) (n : Int) : Ordering :=
  let scaled : Int := x.m * Nat.pow 2 x.q.toNat
  compare (if negative then -scaled else scaled) (n * Nat.pow 2 (-x.q).toNat)

/-- Integers of at least this magnitude are beyond the range of doubles. -/
def beyondDoubles : Nat := Nat.pow 2 1024 - Nat.pow 2 970

/-- The integer nearest to zero among those next to a finite value. -/
def truncate (negative : Bool) (x : Binary) : Int :=
  if negative then -(x.floor : Int) else x.floor

end BaseGateway.Decimal
