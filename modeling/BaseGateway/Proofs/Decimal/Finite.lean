import BaseGateway.Decimal.Nearest
import BaseGateway.Proofs.Decimal.Layout

/-!
# Integers as floats

An integer whose magnitude is below `beyondDoubles` rounds to a finite float
(`Decimal.floatOfInt_isFinite`): the bound is where rounding would carry the exponent into the field
that is kept for infinity.

* a float is finite as long as its exponent field is not full (`Decimal.isFinite_ofBits`), and so is
  its negation (`Decimal.isFinite_neg`);
* the bits of the nearest double stay below those of infinity (`Decimal.nearestBits_lt`).
-/

namespace BaseGateway.Decimal

open Float.Model

/-- An unpacked float whose exponent is below the one of infinity. -/
def Fits : UnpackedFloat → Prop
  | .zero _ => True
  | .finite _ _ e _ => (e + 1023 + 52).toNat + 1 < 2 ^ 11
  | _ => False

theorem Fits.isFinite {u : UnpackedFloat} (h : Fits u) : u.isFinite = true := by
  cases u <;> first | rfl | exact h.elim

theorem Fits.neg {u : UnpackedFloat} (h : Fits u) : Fits u.neg := by
  cases u <;> exact h

/-- A full exponent field is the greatest one. -/
theorem eq_full_iff (field : BitVec 11) : field = -1#_ ↔ field.toNat = 2047 := by
  rw [← BitVec.toNat_inj]
  rfl

/-- What is unpacked fits unless the exponent field is full. -/
theorem fits_unpack {bits : BitVec Format.binary64.numBits}
    (room : UnpackedFloat.unpackExponent bits ≠ -1#_) :
    Fits (UnpackedFloat.unpack Format.binary64 bits) := by
  have small : (UnpackedFloat.unpackExponent bits).toNat < 2048 :=
    (UnpackedFloat.unpackExponent bits).isLt
  have other := (eq_full_iff _).not.mp room
  have bias : Format.binary64.exponentBias = 1023 := rfl
  delta UnpackedFloat.unpack
  dsimp only
  rw [if_neg room]
  by_cases subnormal : UnpackedFloat.unpackExponent bits = 0#_
  · rw [if_pos subnormal]
    by_cases zero : UnpackedFloat.unpackMantissa bits = 0#_
    · rw [dif_pos zero]
      trivial
    · rw [dif_neg zero]
      unfold Fits
      dsimp only
      rw [bias, subnormal]
      decide
  · rw [if_neg subnormal]
    unfold Fits
    dsimp only
    rw [bias]
    omega

/-- What fits is packed without filling the exponent field. -/
theorem unpackExponent_pack {u : UnpackedFloat} (h : Fits u) :
    UnpackedFloat.unpackExponent (UnpackedFloat.pack Format.binary64 u) ≠ -1#_ := by
  have bias : Format.binary64.exponentBias = 1023 := rfl
  rw [Ne, eq_full_iff]
  cases u with
  | notANumber => exact h.elim
  | infinity s => exact h.elim
  | zero s =>
    have packed : UnpackedFloat.pack Format.binary64 (.zero s) =
      UnpackedFloat.packComponents Format.binary64 s 0 0 := rfl
    rw [packed, UnpackedFloat.unpackExponent_packComponents]
    decide
  | finite s m e positive =>
    unfold Fits at h
    delta UnpackedFloat.pack
    dsimp only
    rw [bias, if_neg (by omega)]
    split
    · rw [UnpackedFloat.unpackExponent_packComponents, BitVec.toNat_ofNat]
      omega
    · rw [UnpackedFloat.unpackExponent_packComponents]
      decide

/-- A float is finite unless its exponent field is full. -/
theorem isFinite_ofBits {bits : UInt64} (room : bits.toNat / 2 ^ 52 % 2 ^ 11 ≠ 2047) :
    (Float.ofBits bits).isFinite = true := by
  have field : @UnpackedFloat.unpackExponent Format.binary64 bits.toBitVec ≠ -1#_ := by
    rw [Ne, eq_full_iff, unpackExponent_toNat]
    exact room
  have packed : (Float.ofBits bits).isFinite =
    (UnpackedFloat.unpack Format.binary64 (UnpackedFloat.pack Format.binary64
      (UnpackedFloat.unpack Format.binary64 bits.toBitVec))).isFinite := rfl
  rw [packed]
  exact (fits_unpack (unpackExponent_pack (fits_unpack field))).isFinite

theorem isFinite_neg {x : Float} (h : x.isFinite = true) : (-x).isFinite = true := by
  have unpacked : x.isFinite =
    (UnpackedFloat.unpack Format.binary64 x.toBits.toBitVec).isFinite := rfl
  have packed : (-x).isFinite =
    (UnpackedFloat.unpack Format.binary64 (UnpackedFloat.pack Format.binary64
      (UnpackedFloat.unpack Format.binary64 x.toBits.toBitVec).neg)).isFinite := rfl
  have room : @UnpackedFloat.unpackExponent Format.binary64 x.toBits.toBitVec ≠ -1#_ := by
    intro full
    rw [unpacked, isFinite_unpack full] at h
    cases h
  rw [packed]
  exact (fits_unpack (unpackExponent_pack (fits_unpack room).neg)).isFinite

/-- A quotient nearer to what is below a natural than to the natural itself is rounded to less. -/
theorem roundQuotient_lt {num den k : Nat} (below : 2 * num + den < 2 * (k * den)) :
    roundQuotient num den < k := by
  have positive : 0 < den := by
    by_contra none
    obtain rfl : den = 0 := by omega
    omega
  have less : num / den < k := (Nat.div_lt_iff_lt_mul positive).mpr (by omega)
  have carried (half : den ≤ 2 * (num % den)) : num / den + 1 < k := by
    have parts : den * (num / den) + num % den = num := Nat.div_add_mod num den
    by_contra last
    obtain rfl : k = num / den + 1 := by omega
    rw [Nat.add_mul, Nat.one_mul, Nat.mul_comm (num / den)] at below
    omega
  unfold roundQuotient
  dsimp only
  split
  · exact less
  · next above =>
    rw [Nat.compare_eq_gt] at above
    exact carried (Nat.le_of_lt above)
  · next tie =>
    rw [Nat.compare_eq_eq] at tie
    have room := carried (Nat.le_of_eq tie.symm)
    split <;> omega

theorem roundQuotient_le {num den k : Nat} (below : num < k * den) : roundQuotient num den ≤ k := by
  have positive : 0 < den := Nat.pos_of_mul_pos_left (Nat.zero_lt_of_lt below)
  have less : num / den < k := (Nat.div_lt_iff_lt_mul positive).mpr below
  unfold roundQuotient
  dsimp only
  repeat' split
  all_goals omega

/-- The scale of a natural is its binary length. -/
theorem quotientScale_one {n : Nat} (positive : n ≠ 0) : quotientScale n 1 = n.log2 := by
  have reached : 2 ^ n.log2 ≤ n := Nat.log2_self_le positive
  have unit : Nat.log2 1 = 0 := by decide
  unfold quotientScale
  dsimp only
  rw [unit, if_pos]
  · omega
  · have up : ((n.log2 : Int) - (0 : Nat)).toNat = n.log2 := by omega
    have down : (-((n.log2 : Int) - (0 : Nat))).toNat = 0 := by omega
    rw [up, down, Nat.one_mul]
    simpa using reached

/-- The significand of a natural, in units of the last place. -/
def significand (n : Nat) : Nat :=
  roundQuotient (n * 2 ^ (52 - n.log2)) (2 ^ (n.log2 - 52))

theorem nearestBits_eq {n : Nat} (positive : n ≠ 0) :
    nearestBits n 1 = min ((n.log2 + 1022) * 2 ^ 52 + significand n) infiniteBits := by
  have unit : max ((n.log2 : Int) - 52) (-1074) = n.log2 - 52 := by omega
  have field : ((n.log2 : Int) - 52 + 1074).toNat = n.log2 + 1022 := by omega
  have up : (-((n.log2 : Int) - 52)).toNat = 52 - n.log2 := by omega
  have down : ((n.log2 : Int) - 52).toNat = n.log2 - 52 := by omega
  unfold nearestBits
  rw [quotientScale_one positive]
  dsimp only
  rw [unit, field, up, down, Nat.one_mul]
  rfl

theorem significand_le (n : Nat) : significand n ≤ 2 ^ 53 := by
  have reached : n < 2 ^ (n.log2 + 1) := Nat.lt_log2_self
  apply roundQuotient_le
  have scales : n.log2 + 1 + (52 - n.log2) = 53 + (n.log2 - 52) := by omega
  rw [← Nat.pow_add, ← scales, Nat.pow_add]
  exact (Nat.mul_lt_mul_right (Nat.two_pow_pos _)).mpr reached

/-- The bound in units of half a last place. -/
theorem beyondDoubles_eq {k : Nat} (half : k = 970) : beyondDoubles = (2 ^ 54 - 1) * 2 ^ k := by
  have scale : 1024 = 54 + k := by omega
  have gap : Nat.pow 2 (54 + k) - Nat.pow 2 k = (2 ^ 54 - 1) * 2 ^ k := by
    rw [Nat.sub_mul, Nat.one_mul, ← Nat.pow_add]
    rfl
  unfold beyondDoubles
  rw [scale, ← half]
  exact gap

theorem one_lt_beyondDoubles : 1 < beyondDoubles := by
  obtain ⟨k, half⟩ : ∃ k, k = 970 := ⟨_, rfl⟩
  have positive := Nat.two_pow_pos k
  rw [beyondDoubles_eq half]
  omega

/-- Numbers of up to 300 digits are below the bound. -/
theorem lt_beyondDoubles {n : Nat} (h : n < 10 ^ 300) : n < beyondDoubles := by
  obtain ⟨k, half⟩ : ∃ k, k = 970 := ⟨_, rfl⟩
  have room : 10 ^ 300 ≤ 2 ^ 30 * 2 ^ k := calc
    10 ^ 300 = (10 ^ 3) ^ 100 := by rw [← Nat.pow_mul]
    _ ≤ (2 ^ 10) ^ 100 := Nat.pow_le_pow_left (by decide) 100
    _ = 2 ^ 30 * 2 ^ k := by rw [← Nat.pow_mul, show 10 * 100 = 30 + k by omega, Nat.pow_add]
  have positive := Nat.two_pow_pos k
  refine Nat.lt_of_lt_of_le h (Nat.le_trans room ?_)
  rw [beyondDoubles_eq half]
  omega

/-- Below the bound a natural of the greatest length does not round up to the next one. -/
theorem significand_lt {n : Nat} (long : n.log2 = 1023) (bounded : n < beyondDoubles) :
    significand n < 2 ^ 53 := by
  obtain ⟨k, half⟩ : ∃ k, k = 970 := ⟨_, rfl⟩
  have none : 52 - n.log2 = 0 := by omega
  have unit : n.log2 - 52 = k + 1 := by omega
  apply roundQuotient_lt
  rw [none, unit, Nat.pow_succ]
  rw [beyondDoubles_eq half] at bounded
  omega

/-- The bits of the double nearest to a natural below the bound are below those of infinity. -/
theorem nearestBits_lt {n : Nat} (positive : n ≠ 0) (bounded : n < beyondDoubles) :
    nearestBits n 1 < infiniteBits := by
  obtain ⟨k, half⟩ : ∃ k, k = 970 := ⟨_, rfl⟩
  have short : n.log2 < 54 + k := by
    rw [Nat.log2_lt positive, Nat.pow_add]
    rw [beyondDoubles_eq half] at bounded
    omega
  have le := significand_le n
  have lt := fun long => significand_lt (n := n) long bounded
  rw [nearestBits_eq positive]
  have full : infiniteBits = 2047 * 2 ^ 52 := rfl
  omega

theorem floatOfInt_isFinite {n : Int} (bounded : n.natAbs < beyondDoubles) :
    (floatOfInt n).isFinite = true := by
  have nearest : (nearestFloat n.natAbs 1).isFinite = true := by
    unfold nearestFloat
    split
    · decide
    · next other =>
      have small := nearestBits_lt other bounded
      have full : infiniteBits = 2047 * 2 ^ 52 := rfl
      apply isFinite_ofBits
      have fits : (nearestBits n.natAbs 1).toUInt64.toNat = nearestBits n.natAbs 1 % 2 ^ 64 :=
        UInt64.toNat_ofNat'
      omega
  unfold floatOfInt
  dsimp only
  split
  · exact isFinite_neg nearest
  · exact nearest

end BaseGateway.Decimal
