import Mathlib.Algebra.Group.Nat.Defs
import BaseGateway.Formula.Range
import BaseGateway.Proofs.Formula.Grammar

/-!
# The layout of numbers

Every finite number is written as a number in decimal: perhaps a minus, digits, perhaps a point and
digits, perhaps an exponent with its sign. Nothing else that a float stands for is finite.
-/

namespace BaseGateway

open Grammar

namespace Decimal

theorem digits_natChars (n : Nat) : DigitRun (natChars n) :=
  ⟨Nat.toDigits_ne_nil, fun _ mem => Nat.isDigit_of_mem_toDigits (by decide) (by decide) mem⟩

theorem digits_zeros (n : Nat) : ∀ c ∈ List.replicate n '0', c.isDigit = true := by
  intro c mem
  rw [List.eq_of_mem_replicate mem]
  decide

theorem magnitude_digits {s : List Char} (digits : DigitRun s) : Magnitude s := by
  simpa using Magnitude.mk digits .none .none

theorem magnitude_places {whole places : List Char} (digits : DigitRun whole)
    (decimals : DigitRun places) : Magnitude (whole ++ '.' :: places) := by
  simpa using Magnitude.mk digits (.some decimals) .none

theorem numeral_intChars (n : Int) : Numeral (intChars n) := by
  unfold intChars
  split
  · exact .negative (magnitude_digits (digits_natChars _))
  · exact .positive (magnitude_digits (digits_natChars _))

theorem exponent_exponentChars (e : Int) : Exponent (exponentChars e) := by
  have padded : DigitRun (if (natChars e.natAbs).length < 2 then '0' :: natChars e.natAbs
      else natChars e.natAbs) := by
    split
    · exact ⟨List.cons_ne_nil _ _,
        List.forall_mem_cons.mpr ⟨by decide, (digits_natChars _).2⟩⟩
    · exact digits_natChars _
  unfold exponentChars
  by_cases negative : e < 0
  · simp only [negative, if_true]
    exact .minus padded
  · simp only [negative, if_false]
    exact .plus padded

/-- Digits with a point among them, before them or behind them. -/
theorem magnitude_pointed {digits : List Char} (h : DigitRun digits) (point : Int) :
    Magnitude (pointed digits point) := by
  unfold pointed
  split
  · refine @magnitude_places ['0'] _ ⟨by simp, by simp⟩ ⟨?_, ?_⟩
    · simp [h.1]
    · exact List.forall_mem_append.mpr ⟨digits_zeros _, h.2⟩
  · split
    · refine @magnitude_places _ ['0'] ⟨?_, ?_⟩ ⟨by simp, by simp⟩
      · simp [h.1]
      · exact List.forall_mem_append.mpr ⟨h.2, digits_zeros _⟩
    · next positive short =>
      refine magnitude_places ⟨?_, ?_⟩ ⟨?_, ?_⟩
      · rw [Ne, List.take_eq_nil_iff]
        exact not_or.mpr ⟨by omega, h.1⟩
      · exact fun c mem => h.2 c (List.mem_of_mem_take mem)
      · rw [Ne, List.drop_eq_nil_iff]
        omega
      · exact fun c mem => h.2 c (List.mem_of_mem_drop mem)

theorem magnitude_scientific {digits : List Char} (h : DigitRun digits) (e : Int) :
    Magnitude (scientific digits e) := by
  match digits, h with
  | [], h => exact absurd rfl h.1
  | [d], h => simpa [scientific] using Magnitude.mk h .none (exponent_exponentChars e)
  | d :: c :: rest, h =>
    have first : DigitRun [d] := ⟨by simp, by simpa using h.2 d (by simp)⟩
    have others : DigitRun (c :: rest) :=
      ⟨by simp, fun x mem => h.2 x (List.mem_cons_of_mem _ mem)⟩
    simpa [scientific] using Magnitude.mk first (.some others) (exponent_exponentChars e)

theorem magnitude_digitsChars (d : Digits) : Magnitude d.chars := by
  unfold Digits.chars
  dsimp only
  split
  · exact magnitude_pointed (digits_natChars _) _
  · exact magnitude_scientific (digits_natChars _) _

theorem numeral_floatChars {x : Float} {negative : Bool} {b : Binary}
    (finite : Reading.ofFloat x = .finite negative b) : Numeral (floatChars x) := by
  have magnitude : Magnitude (if b.m = 0 then "0.0".toList else b.shortest.chars) := by
    split
    · exact @magnitude_places ['0'] ['0'] ⟨by simp, by simp⟩ ⟨by simp, by simp⟩
    · exact magnitude_digitsChars _
  unfold floatChars
  rw [finite]
  cases negative with
  | false => exact .positive magnitude
  | true => exact .negative magnitude

open Float.Model in
theorem unpackExponent_toNat (b : BitVec Format.binary64.numBits) :
    (UnpackedFloat.unpackExponent b).toNat = b.toNat / 2 ^ 52 % 2 ^ 11 := by
  simp [UnpackedFloat.unpackExponent, BitVec.extractLsb, Nat.shiftRight_eq_div_pow]

open Float.Model in
/-- A float whose exponent field is full does not count as finite. -/
theorem isFinite_unpack {bits : BitVec Format.binary64.numBits}
    (full : UnpackedFloat.unpackExponent bits = -1#_) :
    (UnpackedFloat.unpack Format.binary64 bits).isFinite = false := by
  delta UnpackedFloat.unpack
  dsimp only
  rw [if_pos full]
  split <;> rfl

open Float.Model in
/-- A float that counts as finite stands for a sign and a magnitude. -/
theorem exists_finite {x : Float} (h : x.isFinite = true) :
    ∃ negative b, Reading.ofFloat x = .finite negative b := by
  unfold Reading.ofFloat
  dsimp only
  split
  · next infinite =>
    exfalso
    have field : @UnpackedFloat.unpackExponent Format.binary64 x.toBits.toBitVec = -1#_ := by
      apply BitVec.eq_of_toNat_eq
      rw [unpackExponent_toNat]
      simpa using infinite
    have unpacked : x.isFinite =
        (UnpackedFloat.unpack Format.binary64 x.toBits.toBitVec).isFinite := rfl
    rw [unpacked, isFinite_unpack field] at h
    cases h
  · exact ⟨_, _, rfl⟩

end Decimal

/-- A number that is to be finite, as a formula writes it. -/
theorem numeral_formulaChars {n : Number}
    (finite : ∀ x, n = .real x → x.isFinite = true) : Numeral n.formulaChars := by
  cases n with
  | whole n => exact Decimal.numeral_intChars n
  | real x =>
    obtain ⟨negative, b, reading⟩ := Decimal.exists_finite (finite x rfl)
    simp only [Number.formulaChars, reading]
    split
    · exact Decimal.numeral_intChars _
    · exact Decimal.numeral_floatChars reading

end BaseGateway
