import Mathlib.Tactic.FieldSimp
import BaseGateway.Decimal.Shortest
import BaseGateway.Proofs.Decimal.Bits
import BaseGateway.Proofs.Decimal.Rounding

/-!
# The digits of a float read back

The rationals that round to a float lie around its value, on either side up to the middle between it
and the next float. The digits that a float is written with lie there (`shortest_isNear`), and every
quotient that lies there is rounded to the bits of the float (`nearestBits_of_isNear`).
-/

namespace BaseGateway.Decimal

/-- The number that digits stand for. -/
def Digits.value (d : Digits) : ℚ := d.digits * 10 ^ d.exp

/-- The number that a magnitude is. -/
def Binary.value (x : Binary) : ℚ := x.m * 2 ^ x.q

/-- The significand of the middle below, in quarters of a unit. -/
def Binary.below (x : Binary) : Nat := if x.narrowBelow then 4 * x.m - 1 else 4 * x.m - 2

/-- Does a number lie among those that round to this magnitude? The middles themselves do so where
the significand is even. -/
def Binary.IsNear (x : Binary) (v : ℚ) : Prop :=
  (x.below * 2 ^ (x.q - 2) < v ∨ x.below * 2 ^ (x.q - 2) = v ∧ x.m % 2 = 0) ∧
    (v < (4 * x.m + 2) * 2 ^ (x.q - 2) ∨ v = (4 * x.m + 2) * 2 ^ (x.q - 2) ∧ x.m % 2 = 0)

/-- The search for digits tests whether they lie near the magnitude. -/
theorem readsBack_iff (x : Binary) (d : Digits) : x.readsBack d = true ↔ x.IsNear d.value := by
  have lower : compareScaled d.digits d.exp x.below (x.q - 2) =
      cmp d.value (x.below * 2 ^ (x.q - 2)) := compareScaled_eq ..
  have upper : compareScaled d.digits d.exp (4 * x.m + 2) (x.q - 2) =
      cmp d.value ((4 * x.m + 2) * 2 ^ (x.q - 2)) := by
    have cast : ((4 * x.m + 2 : Nat) : ℚ) = 4 * x.m + 2 := by push_cast; rfl
    rw [compareScaled_eq, cast]
    rfl
  unfold Binary.readsBack
  dsimp only
  rw [show (if x.narrowBelow then 4 * x.m - 1 else 4 * x.m - 2) = x.below from rfl]
  simp only [Bool.and_eq_true, Bool.or_eq_true, beq_iff_eq]
  rw [lower, upper, cmp_eq_gt_iff, cmp_eq_eq_iff, cmp_eq_lt_iff, cmp_eq_eq_iff, Binary.IsNear]
  tauto

theorem onGrid?_isNear {x : Binary} {unit : Int} {d : Digits} (h : x.onGrid? unit = some d) :
    x.IsNear d.value := by
  rw [← readsBack_iff]
  unfold Binary.onGrid? at h
  dsimp only at h
  split at h
  · next lower _ => exact Option.some.inj h ▸ lower
  · next _ upper => exact Option.some.inj h ▸ upper
  · cases h
  · next lower upper =>
    split at h
    · exact Option.some.inj h ▸ lower
    · exact Option.some.inj h ▸ upper
    · obtain rfl := Option.some.inj h
      split <;> assumption

/-- Zeros at the end of the digits make no difference. -/
theorem strip_value (d : Digits) : d.strip.value = d.value := by
  have step (fuel : Nat) : ∀ d : Digits, (Digits.strip.go fuel d).value = d.value := by
    induction fuel with
    | zero => exact fun d => rfl
    | succ fuel ih =>
      intro d
      unfold Digits.strip.go
      split
      · next zeros =>
        have tens : d.digits = d.digits / 10 * 10 := by omega
        have whole : (d.digits : ℚ) = (d.digits / 10 : Nat) * 10 := by exact_mod_cast tens
        rw [ih, Digits.value, Digits.value, whole, zpow_add₀ (by norm_num : (10 : ℚ) ≠ 0)]
        ring
      · rfl
  exact step _ d

theorem exactDigits_value (x : Binary) : x.exactDigits.value = x.value := by
  have twos := zpow_toNat (by norm_num : (0 : ℚ) < 2) x.q
  have tens : (10 : ℚ) ^ (-x.q).toNat = 2 ^ (-x.q).toNat * 5 ^ (-x.q).toNat := by
    rw [← mul_pow]
    norm_num
  have positive : (0 : ℚ) < 10 ^ (-x.q).toNat := by positivity
  unfold Digits.value Binary.exactDigits Binary.value
  rw [zpow_neg, zpow_natCast, ← div_eq_mul_inv, div_eq_iff positive.ne', tens]
  simp only [Nat.pow_eq]
  push_cast
  rw [← twos]
  ring

theorem isNear_value {x : Binary} (h : x.IsNormal) : x.IsNear x.value := by
  have quarter : x.value = 4 * x.m * 2 ^ (x.q - 2) := by
    rw [Binary.value, zpow_sub₀ (by norm_num : (2 : ℚ) ≠ 0)]
    ring
  have unit : (0 : ℚ) < 2 ^ (x.q - 2) := by positivity
  have less : x.below < 4 * x.m := by
    have positive := h.positive
    unfold Binary.below
    split <;> omega
  have less' : (x.below : ℚ) < 4 * x.m := by exact_mod_cast less
  rw [Binary.IsNear, quarter]
  exact ⟨.inl (mul_lt_mul_of_pos_right less' unit),
    .inl (mul_lt_mul_of_pos_right (by linarith) unit)⟩

/-- The digits that a float is written with lie near it. -/
theorem shortest_isNear {x : Binary} (h : x.IsNormal) : x.IsNear x.shortest.value := by
  unfold Binary.shortest
  dsimp only
  rw [strip_value]
  cases found : (List.range 17).findSome? fun (n : Nat) => x.onGrid? (x.scale - n - 1) with
  | none =>
    rw [Option.getD_none, exactDigits_value]
    exact isNear_value h
  | some d =>
    obtain ⟨n, _, hit⟩ := List.exists_of_findSome?_eq_some found
    rw [Option.getD_some]
    exact onGrid?_isNear hit

/-- A quotient in units of a power of two is rounded, and the unit gives the exponent field. -/
theorem nearestBits_of_rounds {num den m : Nat} {unit : Int} (hd : 0 < den)
    (scale : max (quotientScale num den - 52) (-1074) = unit)
    (rounds : Rounds (num / den / 2 ^ unit) m) :
    nearestBits num den = min ((unit + 1074).toNat * 2 ^ 52 + m) infiniteBits := by
  have positive : 0 < den * Nat.pow 2 unit.toNat := Nat.mul_pos hd (Nat.two_pow_pos _)
  have shifted : ((num * Nat.pow 2 (-unit).toNat : Nat) : ℚ) / (den * Nat.pow 2 unit.toNat : Nat) =
      num / den / 2 ^ unit := by
    have power : (0 : ℚ) < 2 ^ (-unit).toNat := by positivity
    have power' : (0 : ℚ) < 2 ^ unit := by positivity
    have den' : (0 : ℚ) < den := by exact_mod_cast hd
    simp only [Nat.pow_eq]
    push_cast
    rw [← zpow_toNat (by norm_num : (0 : ℚ) < 2) unit]
    field_simp
  rw [← shifted] at rounds
  unfold nearestBits
  rw [scale]
  dsimp only
  rw [roundQuotient_eq positive rounds]
  rfl

section

variable {x : Binary} {v : ℚ}

/-- Near a magnitude, in quarters of its unit. -/
theorem isNear_quarters (h : x.IsNear v) : x.below ≤ v / 2 ^ (x.q - 2) ∧
    v / 2 ^ (x.q - 2) ≤ 4 * x.m + 2 ∧ (x.m % 2 = 1 →
      x.below < v / 2 ^ (x.q - 2) ∧ v / 2 ^ (x.q - 2) < 4 * x.m + 2) := by
  have unit : (0 : ℚ) < 2 ^ (x.q - 2) := by positivity
  obtain ⟨low, high⟩ := h
  rw [le_div_iff₀ unit, div_le_iff₀ unit, lt_div_iff₀ unit, div_lt_iff₀ unit]
  refine ⟨?_, ?_, fun odd => ⟨?_, ?_⟩⟩
  · exact low.elim le_of_lt fun tie => le_of_eq tie.1
  · exact high.elim le_of_lt fun tie => le_of_eq tie.1
  · exact low.elim id fun tie => absurd tie.2 (by omega)
  · exact high.elim id fun tie => absurd tie.2 (by omega)

/-- What is near a magnitude and not below the power of two that it begins at is rounded to its
significand. -/
theorem rounds_of_isNear (positive : 0 < x.m) (h : x.IsNear v) : Rounds (v / 2 ^ x.q) x.m := by
  obtain ⟨low, high, inside⟩ := isNear_quarters h
  have quarters : v / 2 ^ (x.q - 2) = 4 * (v / 2 ^ x.q) := by
    rw [zpow_sub₀ (by norm_num : (2 : ℚ) ≠ 0)]
    field_simp
    norm_num
  have below : (4 * x.m - 2 : ℚ) ≤ x.below := by
    have enough : 4 * x.m ≤ x.below + 2 := by
      unfold Binary.below
      split <;> omega
    have enough' : (4 * x.m : ℚ) ≤ x.below + 2 := by exact_mod_cast enough
    linarith
  rw [quarters] at low high inside
  rcases Nat.mod_two_eq_zero_or_one x.m with even | odd
  · refine ⟨?_, ?_⟩
    · rcases lt_or_eq_of_le (show (x.m - 1 / 2 : ℚ) ≤ v / 2 ^ x.q by linarith) with less | same
      · exact .inl less
      · exact .inr ⟨same, even⟩
    · rcases lt_or_eq_of_le (show v / 2 ^ x.q ≤ (x.m + 1 / 2 : ℚ) by linarith) with less | same
      · exact .inl less
      · exact .inr ⟨same, even⟩
  · obtain ⟨low, high⟩ := inside odd
    exact ⟨.inl (by linarith), .inl (by linarith)⟩

theorem isNear_lt (normal : x.IsNormal) (h : x.IsNear v) : v < 2 ^ (x.q + 53) := by
  have unit : (0 : ℚ) < 2 ^ (x.q - 2) := by positivity
  have split : (2 : ℚ) ^ (x.q + 53) = 2 ^ 55 * 2 ^ (x.q - 2) := by
    rw [← zpow_natCast, ← zpow_add₀ (by norm_num : (2 : ℚ) ≠ 0)]
    congr 1
    push_cast
    ring
  have short : (x.m : ℚ) + 1 ≤ 2 ^ 53 := by exact_mod_cast normal.short
  have high := (isNear_quarters h).2.1
  rw [split, ← div_lt_iff₀ unit]
  linarith

/-- What is near a magnitude and yet below the power of two that it begins at is rounded to that
power, counted in the units below it. -/
theorem rounds_of_isNear_below (normal : x.IsNormal) (h : x.IsNear v) (above : -1074 < x.q)
    (low : v < 2 ^ (x.q + 52)) :
    x.m = 2 ^ 52 ∧ 2 ^ (x.q + 51) ≤ v ∧ Rounds (v / 2 ^ (x.q - 1)) (2 ^ 53) := by
  have unit : (0 : ℚ) < 2 ^ (x.q - 2) := by positivity
  have power (k : Nat) : (2 : ℚ) ^ (x.q - 2 + k) = 2 ^ k * 2 ^ (x.q - 2) := by
    rw [zpow_add₀ (by norm_num : (2 : ℚ) ≠ 0), zpow_natCast, mul_comm]
  have top : v / 2 ^ (x.q - 2) < 2 ^ 54 := by
    have split : x.q + 52 = x.q - 2 + (54 : Nat) := by omega
    rwa [div_lt_iff₀ unit, ← power, ← split]
  have bottom := (isNear_quarters h).1
  have least : x.below < 2 ^ 54 := by exact_mod_cast lt_of_le_of_lt bottom top
  have full : 2 ^ 52 ≤ x.m := normal.full.resolve_left (by omega)
  have first : x.m = 2 ^ 52 := by
    unfold Binary.below at least
    split at least <;> omega
  have middle : x.below = 2 ^ 54 - 1 := by
    rw [Binary.below, if_pos (normal.narrow.mpr ⟨first, above⟩), first]
    decide
  have bottom' : (2 ^ 54 - 1 : ℚ) ≤ v / 2 ^ (x.q - 2) := by
    rw [middle] at bottom
    exact_mod_cast bottom
  have halves : v / 2 ^ (x.q - 1) = v / 2 ^ (x.q - 2) / 2 := by
    have next : x.q - 1 = x.q - 2 + (1 : Nat) := by omega
    rw [next, power]
    field_simp
  refine ⟨first, ?_, ?_⟩
  · have split : x.q + 51 = x.q - 2 + (53 : Nat) := by omega
    rw [split, power, ← le_div_iff₀ unit]
    linarith
  · rw [halves]
    refine ⟨?_, .inl ?_⟩
    · rcases lt_or_eq_of_le (show ((2 ^ 53 : Nat) - 1 / 2 : ℚ) ≤ v / 2 ^ (x.q - 2) / 2 by
        push_cast; linarith) with less | same
      · exact .inl less
      · exact .inr ⟨same, by decide⟩
    · push_cast
      linarith

end

/-- A quotient near a magnitude is rounded to the bits of the magnitude. -/
theorem nearestBits_of_isNear {x : Binary} (normal : x.IsNormal) {num den : Nat} (hn : num ≠ 0)
    (hd : den ≠ 0) (h : x.IsNear (num / den)) : nearestBits num den = x.bits := by
  obtain ⟨low, high⟩ := quotientScale_bounds hn hd
  have grows {i j : Int} (h : (2 : ℚ) ^ i < 2 ^ j) : i < j :=
    (zpow_lt_zpow_iff_right₀ (by norm_num)).mp h
  have bounded := isNear_lt normal h
  have below := grows (lt_of_le_of_lt low bounded)
  have least := normal.least
  have fits := bits_lt normal
  have positive := Nat.pos_of_ne_zero hd
  by_cases begins : x.q = -1074 ∨ (2 : ℚ) ^ (x.q + 52) ≤ num / den
  · have scale : max (quotientScale num den - 52) (-1074) = x.q := by
      rcases begins with last | reached
      · omega
      · have above := grows (lt_of_le_of_lt reached high)
        omega
    rw [nearestBits_of_rounds positive scale (rounds_of_isNear normal.positive h)]
    exact Nat.min_eq_left fits.le
  · rw [not_or, not_le] at begins
    obtain ⟨first, reached, rounds⟩ := rounds_of_isNear_below normal h (by omega) begins.2
    have above := grows (lt_of_le_of_lt reached high)
    have under := grows (lt_of_le_of_lt low begins.2)
    have scale : max (quotientScale num den - 52) (-1074) = x.q - 1 := by omega
    have bits : (x.q - 1 + 1074).toNat * 2 ^ 52 + 2 ^ 53 = x.bits := by
      unfold Binary.bits
      omega
    rw [nearestBits_of_rounds positive scale rounds, bits]
    exact Nat.min_eq_left fits.le

end BaseGateway.Decimal
