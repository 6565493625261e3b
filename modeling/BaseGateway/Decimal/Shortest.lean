import BaseGateway.Decimal.Binary

/-!
# The fewest digits that read back

Among the decimals that round to a given double, the one with the fewest digits; of two with
equally few the closer; of two equally close the one with the even last digit. The search runs on
exact naturals: for `1, 2, …, 17` digits the two neighbours of the value on that decimal grid are
tried, and the first grid with a hit decides.
-/

namespace BaseGateway.Decimal

/-- The number `digits * 10 ^ exp`. -/
structure Digits where
  digits : Nat
  exp : Int
  deriving DecidableEq, Repr

/-- Does the decimal lie among the reals that round to this value (to nearest, ties to even)? -/
def Binary.readsBack (x : Binary) (d : Digits) : Bool :=
  let below := if x.narrowBelow then 4 * x.m - 1 else 4 * x.m - 2
  let above := 4 * x.m + 2
  let closed := x.m % 2 == 0
  let lower := compareScaled d.digits d.exp below (x.q - 2)
  let upper := compareScaled d.digits d.exp above (x.q - 2)
  (lower == .gt || (closed && lower == .eq)) && (upper == .lt || (closed && upper == .eq))

/-- The least `k` with `x < 10 ^ k`, for a positive value: the binary length gives an estimate that
is at most three too small. -/
def Binary.scale (x : Binary) : Int :=
  let guess := Int.fdiv (((x.m.log2 : Int) + x.q) * 30103) 100000
  let fits (k : Int) := compareScaled 1 k x.m x.q == .gt
  if fits guess then guess else if fits (guess + 1) then guess + 1
  else if fits (guess + 2) then guess + 2 else guess + 3

/-- The value in units of `10 ^ unit`, as a quotient of naturals. -/
def Binary.inUnits (x : Binary) (unit : Int) : Nat × Nat :=
  (x.m * Nat.pow 2 x.q.toNat * Nat.pow 10 (-unit).toNat,
    Nat.pow 2 (-x.q).toNat * Nat.pow 10 unit.toNat)

/-- The better neighbour of the value on the grid of `10 ^ unit`, if one reads back. -/
def Binary.onGrid? (x : Binary) (unit : Int) : Option Digits :=
  let (num, den) := x.inUnits unit
  let lo := num / den
  let lower : Digits := ⟨lo, unit⟩
  let upper : Digits := ⟨lo + 1, unit⟩
  match x.readsBack lower, x.readsBack upper with
  | true, false => some lower
  | false, true => some upper
  | false, false => none
  | true, true =>
    match compare (2 * num) ((2 * lo + 1) * den) with
    | .lt => some lower
    | .gt => some upper
    | .eq => some (if lo % 2 = 0 then lower else upper)

/-- Moves trailing zeros of the digits into the exponent. -/
def Digits.strip (d : Digits) : Digits :=
  go d.digits.log2 d
where
  go : Nat → Digits → Digits
    | 0, d => d
    | fuel + 1, d =>
      if d.digits ≠ 0 ∧ d.digits % 10 = 0 then go fuel ⟨d.digits / 10, d.exp + 1⟩ else d

/-- The exact decimal value of a magnitude. -/
def Binary.exactDigits (x : Binary) : Digits :=
  ⟨x.m * Nat.pow 2 x.q.toNat * Nat.pow 5 (-x.q).toNat, -((-x.q).toNat : Int)⟩

/-- The fewest digits that read back to a positive magnitude. -/
def Binary.shortest (x : Binary) : Digits :=
  let k := x.scale
  let found := (List.range 17).findSome? fun (n : Nat) => x.onGrid? (k - n - 1)
  (found.getD x.exactDigits).strip

end BaseGateway.Decimal
