import BaseGateway.Proofs.Decimal.Finite

/-!
# The bits of a float

A float is told by its bits, since there is one way to write what is not a number
(`eq_of_toBits`). So it is told by what it stands for:

* the bits of a finite float are those of its magnitude behind its sign (`toBits_of_finite`), and
  the float made of them is the same (`signed_ofBits`);
* there is one infinite float of each sign and one that is not a number (`eq_of_infinite`,
  `eq_of_nan`).
-/

namespace BaseGateway.Decimal

/-- A magnitude that is not nought, as the fields of a float give it. -/
structure Binary.IsNormal (x : Binary) : Prop where
  positive : 0 < x.m
  short : x.m < 2 ^ 53
  least : -1074 ≤ x.q
  most : x.q ≤ 971
  full : x.q = -1074 ∨ 2 ^ 52 ≤ x.m
  narrow : x.narrowBelow = true ↔ x.m = 2 ^ 52 ∧ -1074 < x.q

/-- The bits of a magnitude: the exponent field and the fraction stand next to each other. -/
def Binary.bits (x : Binary) : Nat := (x.q + 1074).toNat * 2 ^ 52 + x.m

theorem bits_lt {x : Binary} (h : x.IsNormal) : x.bits < infiniteBits := by
  have short := h.short
  have most := h.most
  have full : infiniteBits = 2047 * 2 ^ 52 := rfl
  unfold Binary.bits
  omega

theorem bits_ofFields (exponent fraction : Nat) :
    (Binary.ofFields exponent fraction).bits = exponent * 2 ^ 52 + fraction := by
  unfold Binary.bits Binary.ofFields
  simp only [Nat.pow_eq]
  split <;> dsimp only <;> omega

theorem isNormal_ofFields {exponent fraction : Nat} (short : fraction < 2 ^ 52)
    (finite : exponent < 2047) (nonzero : (Binary.ofFields exponent fraction).m ≠ 0) :
    (Binary.ofFields exponent fraction).IsNormal := by
  unfold Binary.ofFields at nonzero ⊢
  simp only [Nat.pow_eq] at nonzero ⊢
  by_cases least : exponent = 0
  · rw [if_pos least] at nonzero ⊢
    dsimp only at nonzero ⊢
    have most : (-1074 : Int) ≤ 971 := by decide
    exact ⟨Nat.pos_of_ne_zero nonzero, Nat.lt_trans short (by decide), Int.le_refl _, most,
      .inl rfl, by simp⟩
  · rw [if_neg least]
    constructor <;> simp only [Bool.and_eq_true, beq_iff_eq, decide_eq_true_eq] <;> omega

section

open Float.Model

theorem unpackMantissa_toNat (b : BitVec Format.binary64.numBits) :
    (UnpackedFloat.unpackMantissa b).toNat = b.toNat % 2 ^ 52 := by
  simp [UnpackedFloat.unpackMantissa, BitVec.extractLsb]

theorem unpackSign_toNat (b : BitVec Format.binary64.numBits) :
    (UnpackedFloat.unpackSign b).toNat = b.toNat / 2 ^ 63 % 2 := by
  delta UnpackedFloat.unpackSign
  simp [BitVec.extractLsb, Nat.shiftRight_eq_div_pow]

theorem packComponents_toNat (s : UnpackedFloat.Sign) (e : BitVec 11) (m : BitVec 52) :
    (UnpackedFloat.packComponents Format.binary64 s e m).toNat =
      s.toBitVec.toNat * 2 ^ 63 + e.toNat * 2 ^ 52 + m.toNat := by
  have he : e.toNat < 2 ^ 11 := e.isLt
  have hm : m.toNat < 2 ^ 52 := m.isLt
  have packed : UnpackedFloat.packComponents Format.binary64 s e m = (s.toBitVec ++ e) ++ m := rfl
  rw [packed, BitVec.toNat_append, BitVec.toNat_append, ← Nat.shiftLeft_add_eq_or_of_lt hm,
    ← Nat.shiftLeft_add_eq_or_of_lt he]
  simp only [Nat.shiftLeft_eq]
  omega

theorem toBitVec_ofBitVec (b : BitVec 1) : (UnpackedFloat.Sign.ofBitVec b).toBitVec = b := by
  revert b
  decide

/-- Bits are put together from their fields again. -/
theorem packComponents_unpack (b : BitVec Format.binary64.numBits) :
    UnpackedFloat.packComponents Format.binary64
      (.ofBitVec (UnpackedFloat.unpackSign b)) (UnpackedFloat.unpackExponent b)
      (UnpackedFloat.unpackMantissa b) = b := by
  have bound : b.toNat < 2 ^ 64 := b.isLt
  apply BitVec.eq_of_toNat_eq
  refine (packComponents_toNat _ _ _).trans ?_
  rw [toBitVec_ofBitVec, unpackSign_toNat, unpackExponent_toNat, unpackMantissa_toNat]
  omega

/-- A short significand is packed with an empty exponent field. -/
theorem pack_short {s : UnpackedFloat.Sign} {m : Nat} {e : Int} {positive : 0 < m}
    (short : m < 2 ^ 52) (least : e = -1074) :
    UnpackedFloat.pack Format.binary64 (.finite s m e positive) =
      UnpackedFloat.packComponents Format.binary64 s 0#11 (BitVec.ofNat 52 m) := by
  have bias : Format.binary64.exponentBias = 1023 := rfl
  have width : Format.binary64.mantissaBits = 53 := rfl
  have bits : m.log2 < 52 := (Nat.log2_lt (Nat.ne_of_gt positive)).mpr short
  delta UnpackedFloat.pack
  dsimp only
  rw [bias, width, if_neg (by omega), if_neg (by omega)]

/-- A full significand is packed without its first bit. -/
theorem pack_full {s : UnpackedFloat.Sign} {m : Nat} {e : Int} {positive : 0 < m} {k : Nat}
    (full : 2 ^ 52 ≤ m) (short : m < 2 ^ 53) (exponent : e = k - 1075) (room : k < 2047) :
    UnpackedFloat.pack Format.binary64 (.finite s m e positive) =
      UnpackedFloat.packComponents Format.binary64 s (BitVec.ofNat 11 k)
        (BitVec.ofNat 52 m) := by
  have bias : Format.binary64.exponentBias = 1023 := rfl
  have width : Format.binary64.mantissaBits = 53 := rfl
  have bits : m.log2 = 52 := (Nat.log2_eq_iff (Nat.ne_of_gt positive)).mpr ⟨full, short⟩
  have biased : (e + (1023 : Nat) + (52 : Nat)).toNat = k := by omega
  delta UnpackedFloat.pack
  dsimp only
  rw [bias, width, biased, bits, if_neg (by omega), if_pos rfl]

/-- What is unpacked is packed to the same bits, unless it is one of the other ways to write what is
not a number. -/
theorem pack_unpack {b : BitVec Format.binary64.numBits} (valid : Format.binary64.Valid b) :
    UnpackedFloat.pack Format.binary64 (UnpackedFloat.unpack Format.binary64 b) = b := by
  have whole := packComponents_unpack b
  have bias : Format.binary64.exponentBias = 1023 := rfl
  have wide : (UnpackedFloat.unpackExponent b).toNat < 2048 := (UnpackedFloat.unpackExponent b).isLt
  have short : (UnpackedFloat.unpackMantissa b).toNat < 2 ^ 52 :=
    (UnpackedFloat.unpackMantissa b).isLt
  delta UnpackedFloat.unpack
  dsimp only
  by_cases full : UnpackedFloat.unpackExponent b = -1#_
  · rw [if_pos full]
    by_cases zero : UnpackedFloat.unpackMantissa b = 0#_
    · rw [if_pos zero]
      rwa [full, zero] at whole
    · rw [if_neg zero]
      exact (valid.eq_packedNaN full zero).symm
  · rw [if_neg full]
    by_cases least : UnpackedFloat.unpackExponent b = 0#_
    · rw [if_pos least]
      by_cases zero : UnpackedFloat.unpackMantissa b = 0#_
      · rw [dif_pos zero]
        rwa [least, zero] at whole
      · rw [dif_neg zero, pack_short short (by rw [bias, least]; rfl)]
        rw [least] at whole
        refine Eq.trans ?_ whole
        congr 1
        exact (BitVec.ofNat_toNat _ _).trans (BitVec.setWidth_eq _)
    · have other : (UnpackedFloat.unpackExponent b).toNat ≠ 2047 :=
        (eq_full_iff _).not.mp full
      have leading : (1#1 ++ UnpackedFloat.unpackMantissa b).toNat =
          2 ^ 52 + (UnpackedFloat.unpackMantissa b).toNat := by
        rw [BitVec.toNat_append, ← Nat.shiftLeft_add_eq_or_of_lt short]
        rfl
      rw [if_neg least, pack_full (k := (UnpackedFloat.unpackExponent b).toNat) (by omega)
        (by omega) (by rw [bias]; rfl) (by omega)]
      refine Eq.trans ?_ whole
      congr 1
      · exact (BitVec.ofNat_toNat _ _).trans (BitVec.setWidth_eq _)
      · apply BitVec.eq_of_toNat_eq
        rw [BitVec.toNat_ofNat, leading, Nat.add_mod_left, Nat.mod_eq_of_lt short]

/-- A float is told by its bits. -/
theorem ofBits_toBits (x : Float) : Float.ofBits x.toBits = x := by
  obtain ⟨⟨bits, valid⟩⟩ := x
  have same : UnpackedFloat.pack Format.binary64
      (UnpackedFloat.unpack Format.binary64 bits.toBitVec) = bits.toBitVec := pack_unpack valid
  delta Float.ofBits Float.Model.ofBits Float.Model.pack
  congr 2
  exact UInt64.eq_of_toBitVec_eq same

theorem eq_of_toBits {x y : Float} (h : x.toBits = y.toBits) : x = y := by
  rw [← ofBits_toBits x, h, ofBits_toBits y]

/-- Bits whose exponent field is not full are those of the float that is made of them. -/
theorem toBits_ofBits {bits : UInt64} (room : bits.toNat / 2 ^ 52 % 2 ^ 11 ≠ 2047) :
    (Float.ofBits bits).toBits = bits := by
  have field : @UnpackedFloat.unpackExponent Format.binary64 bits.toBitVec ≠ -1#_ := by
    rw [Ne, eq_full_iff, unpackExponent_toNat]
    exact room
  have valid : Format.binary64.Valid bits.toBitVec := ⟨fun full => absurd full field⟩
  exact UInt64.eq_of_toBitVec_eq (pack_unpack valid)

theorem finite_congr {s s' : UnpackedFloat.Sign} {m m' : Nat} {e e' : Int} {positive : 0 < m}
    {positive' : 0 < m'} (sign : s = s') (same : m = m') (exponent : e = e') :
    UnpackedFloat.finite s m e positive = .finite s' m' e' positive' := by
  subst sign same exponent
  rfl

/-- Bits that differ in the sign alone. -/
theorem neg_unpack {b c : BitVec Format.binary64.numBits} (small : b.toNat < 2 ^ 63)
    (h : c.toNat = b.toNat + 2 ^ 63) :
    (UnpackedFloat.unpack Format.binary64 b).neg = UnpackedFloat.unpack Format.binary64 c := by
  have exponent : UnpackedFloat.unpackExponent c = UnpackedFloat.unpackExponent b := by
    apply BitVec.eq_of_toNat_eq
    rw [unpackExponent_toNat, unpackExponent_toNat]
    omega
  have mantissa : UnpackedFloat.unpackMantissa c = UnpackedFloat.unpackMantissa b := by
    apply BitVec.eq_of_toNat_eq
    rw [unpackMantissa_toNat, unpackMantissa_toNat]
    omega
  have plus : UnpackedFloat.unpackSign b = 0#1 := by
    apply BitVec.eq_of_toNat_eq
    rw [unpackSign_toNat, BitVec.toNat_ofNat]
    omega
  have minus : UnpackedFloat.unpackSign c = 1#1 := by
    apply BitVec.eq_of_toNat_eq
    rw [unpackSign_toNat, BitVec.toNat_ofNat]
    omega
  delta UnpackedFloat.unpack
  dsimp only
  rw [exponent, plus, minus]
  by_cases full : UnpackedFloat.unpackExponent b = -1#_
  · rw [if_pos full, if_pos full, mantissa]
    split <;> rfl
  · rw [if_neg full, if_neg full]
    by_cases least : UnpackedFloat.unpackExponent b = 0#_
    · rw [if_pos least, if_pos least]
      by_cases zero : UnpackedFloat.unpackMantissa b = 0#_
      · rw [dif_pos zero, dif_pos (mantissa.trans zero)]
        rfl
      · rw [dif_neg zero, dif_neg (mantissa ▸ zero)]
        exact finite_congr rfl (by rw [mantissa]) rfl
    · rw [if_neg least, if_neg least]
      exact finite_congr rfl (by rw [mantissa]) rfl

/-- Floats that differ in their signs alone. -/
theorem neg_eq {x y : Float} (small : x.toBits.toNat < 2 ^ 63)
    (h : y.toBits.toNat = x.toBits.toNat + 2 ^ 63) : -x = y := by
  apply eq_of_toBits
  apply UInt64.eq_of_toBitVec_eq
  have packed : (-x).toBits.toBitVec = UnpackedFloat.pack Format.binary64
    (UnpackedFloat.unpack Format.binary64 x.toBits.toBitVec).neg := rfl
  rw [packed, neg_unpack small h]
  exact pack_unpack y.toModel.valid

end

variable {x : Float} {negative : Bool}

/-- The bit of a sign. -/
def signBit (negative : Bool) : Nat := if negative then 2 ^ 63 else 0

/-- The sign, the exponent field and the fraction of a float make its bits. -/
theorem toBits_fields (x : Float) : x.toBits.toNat =
    signBit (x.toBits.toNat / 2 ^ 63 == 1) + x.toBits.toNat / 2 ^ 52 % 2 ^ 11 * 2 ^ 52 +
      x.toBits.toNat % 2 ^ 52 := by
  have bound : x.toBits.toNat < 2 ^ 64 := x.toBits.toNat_lt
  unfold signBit
  split
  · next minus =>
    rw [beq_iff_eq] at minus
    omega
  · next plus =>
    rw [beq_iff_eq] at plus
    omega

/-- The fields of a finite float. -/
theorem exists_fields {b : Binary} (h : Reading.ofFloat x = .finite negative b) :
    ∃ exponent fraction, exponent < 2047 ∧ fraction < 2 ^ 52 ∧ b = .ofFields exponent fraction ∧
      x.toBits.toNat = signBit negative + exponent * 2 ^ 52 + fraction := by
  have fields := toBits_fields x
  have short := Nat.mod_lt x.toBits.toNat (Nat.two_pow_pos 52)
  have wide := Nat.mod_lt (x.toBits.toNat / 2 ^ 52) (Nat.two_pow_pos 11)
  unfold Reading.ofFloat at h
  simp only [Nat.pow_eq] at h
  split at h
  · split at h <;> cases h
  · next finite =>
    obtain ⟨rfl, rfl⟩ := Reading.finite.inj h
    exact ⟨_, _, by omega, short, rfl, fields⟩

/-- The bits of a finite float are those of its magnitude behind its sign. -/
theorem toBits_of_finite {b : Binary} (h : Reading.ofFloat x = .finite negative b) :
    x.toBits.toNat = signBit negative + b.bits ∧ b.bits < infiniteBits := by
  obtain ⟨exponent, fraction, finite, short, rfl, bits⟩ := exists_fields h
  have whole : infiniteBits = 2047 * 2 ^ 52 := rfl
  rw [bits_ofFields]
  omega

theorem isNormal_of_finite {b : Binary} (h : Reading.ofFloat x = .finite negative b)
    (nonzero : b.m ≠ 0) : b.IsNormal := by
  obtain ⟨exponent, fraction, finite, short, rfl, _⟩ := exists_fields h
  exact isNormal_ofFields short finite nonzero

theorem toBits_of_infinite (h : Reading.ofFloat x = .infinite negative) :
    x.toBits.toNat = signBit negative + infiniteBits := by
  have fields := toBits_fields x
  unfold Reading.ofFloat at h
  simp only [Nat.pow_eq] at h
  split at h
  · next full =>
    split at h
    · next zero =>
      obtain rfl := Reading.infinite.inj h
      have whole : infiniteBits = 2047 * 2 ^ 52 := rfl
      omega
    · cases h
  · cases h

/-- The float made of the bits of a magnitude, behind its sign, is the float that stands for it. -/
theorem signed_ofBits {b : Binary} (h : Reading.ofFloat x = .finite negative b) :
    (if negative then -Float.ofBits b.bits.toUInt64 else Float.ofBits b.bits.toUInt64) = x := by
  obtain ⟨bits, below⟩ := toBits_of_finite h
  have whole : infiniteBits = 2047 * 2 ^ 52 := rfl
  have same : b.bits.toUInt64.toNat = b.bits :=
    UInt64.toNat_ofNat_of_lt' (Nat.lt_trans below (by decide))
  cases negative with
  | false =>
    rw [if_neg Bool.false_ne_true]
    have bits' : b.bits.toUInt64 = x.toBits := by
      apply UInt64.toNat_inj.mp
      rw [same, bits, signBit, if_neg Bool.false_ne_true, Nat.zero_add]
    rw [bits', ofBits_toBits]
  | true =>
    rw [if_pos rfl]
    rw [signBit, if_pos rfl] at bits
    have own : (Float.ofBits b.bits.toUInt64).toBits = b.bits.toUInt64 := by
      apply toBits_ofBits
      rw [same]
      omega
    apply neg_eq
    · rw [own, same]
      omega
    · rw [own, same, bits, Nat.add_comm]

theorem eq_of_infinite (h : Reading.ofFloat x = .infinite negative) :
    x = if negative then -1.0 / 0.0 else 1.0 / 0.0 := by
  have bits := toBits_of_infinite h
  apply eq_of_toBits
  apply UInt64.toNat_inj.mp
  cases negative with
  | false => exact bits
  | true => exact bits

/-- There is one float that is not a number. -/
theorem eq_of_nan (h : Reading.ofFloat x = .nan) : x = 0.0 / 0.0 := by
  unfold Reading.ofFloat at h
  simp only [Nat.pow_eq] at h
  split at h
  · next full =>
    split at h
    · cases h
    · next other =>
      apply eq_of_toBits
      apply UInt64.eq_of_toBitVec_eq
      apply x.toModel.valid.eq_packedNaN
      · rw [eq_full_iff, unpackExponent_toNat]
        exact full
      · intro zero
        have none := unpackMantissa_toNat x.toModel.toBits.toBitVec
        rw [zero] at none
        exact other none.symm
  · cases h

end BaseGateway.Decimal
