import Mathlib.Algebra.Order.Field.Power
import Mathlib.Data.Rat.Cast.Order
import Mathlib.Tactic.GCongr
import Mathlib.Tactic.Linarith
import Mathlib.Tactic.Positivity
import Mathlib.Tactic.Ring
import BaseGateway.Decimal.Nearest

/-!
# Rounding to the nearest

The exact naturals that floats are read and written by stand for rationals. Here the steps of the
work on them are told by these rationals:

* numbers that are scaled by powers are compared by their values (`compareScaled_eq`);
* a quotient is rounded to the natural that is less than a half away, or a half away and even
  (`roundQuotient_eq`);
* the scale of a quotient is the power of two that it stands behind (`quotientScale_bounds`).
-/

namespace BaseGateway.Decimal

/-- The denominator of a power taken away. -/
theorem zpow_toNat {x : ℚ} (positive : 0 < x) (k : Int) :
    x ^ k * x ^ (-k).toNat = x ^ k.toNat := by
  have same : (k.toNat : Int) = k + ((-k).toNat : Int) := by omega
  rw [← zpow_natCast x (-k).toNat, ← zpow_natCast x k.toNat, same, zpow_add₀ positive.ne']

/-- Scaled numbers are compared by their values. -/
theorem compareScaled_eq (a : Nat) (i : Int) (n : Nat) (j : Int) :
    compareScaled a i n j = cmp ((a : ℚ) * 10 ^ i) (n * 2 ^ j) := by
  have tens := zpow_toNat (by norm_num : (0 : ℚ) < 10) i
  have twos := zpow_toNat (by norm_num : (0 : ℚ) < 2) j
  have common : (0 : ℚ) < 2 ^ (-j).toNat * 10 ^ (-i).toNat := by positivity
  have left : ((a * Nat.pow 10 i.toNat * Nat.pow 2 (-j).toNat : Nat) : ℚ) =
      a * 10 ^ i * (2 ^ (-j).toNat * 10 ^ (-i).toNat) := by
    simp only [Nat.pow_eq]
    push_cast
    rw [← tens]
    ring
  have right : ((n * Nat.pow 2 j.toNat * Nat.pow 10 (-i).toNat : Nat) : ℚ) =
      n * 2 ^ j * (2 ^ (-j).toNat * 10 ^ (-i).toNat) := by
    simp only [Nat.pow_eq]
    push_cast
    rw [← twos]
    ring
  rw [compareScaled, ← cmp_eq_compare, ← (Nat.strictMono_cast (α := ℚ)).cmp_map_eq, left, right,
    cmp_mul_pos_right common]

/-- A value rounds to a natural that is less than a half away, or a half away and even. -/
def Rounds (x : ℚ) (k : Nat) : Prop :=
  (k - 1 / 2 < x ∨ k - 1 / 2 = x ∧ k % 2 = 0) ∧ (x < k + 1 / 2 ∨ x = k + 1 / 2 ∧ k % 2 = 0)

/-- As `Rounds`, for a quotient, in halves of its denominator. -/
theorem rounds_quotient_iff {num den : Nat} (positive : 0 < den) (k : Nat) :
    Rounds (num / den) k ↔
      (2 * (k * den) < 2 * num + den ∨ 2 * (k * den) = 2 * num + den ∧ k % 2 = 0) ∧
      (2 * num < 2 * (k * den) + den ∨ 2 * num = 2 * (k * den) + den ∧ k % 2 = 0) := by
  have unit : (0 : ℚ) < den := by exact_mod_cast positive
  have below : (k - 1 / 2 : ℚ) < num / den ↔ 2 * (k * den) < 2 * num + den := by
    rw [lt_div_iff₀ unit, ← Nat.cast_lt (α := ℚ)]
    push_cast
    constructor <;> intro h <;> linarith
  have touched : (k - 1 / 2 : ℚ) = num / den ↔ 2 * (k * den) = 2 * num + den := by
    rw [eq_div_iff unit.ne', ← Nat.cast_inj (R := ℚ)]
    push_cast
    constructor <;> intro h <;> linarith
  have above : (num / den : ℚ) < k + 1 / 2 ↔ 2 * num < 2 * (k * den) + den := by
    rw [div_lt_iff₀ unit, ← Nat.cast_lt (α := ℚ)]
    push_cast
    constructor <;> intro h <;> linarith
  have reached : (num / den : ℚ) = k + 1 / 2 ↔ 2 * num = 2 * (k * den) + den := by
    rw [div_eq_iff unit.ne', ← Nat.cast_inj (R := ℚ)]
    push_cast
    constructor <;> intro h <;> linarith
  rw [Rounds, below, touched, above, reached]

/-- The rounded quotient is the natural that the quotient rounds to. -/
theorem roundQuotient_eq {num den k : Nat} (positive : 0 < den) (h : Rounds (num / den) k) :
    roundQuotient num den = k := by
  rw [rounds_quotient_iff positive] at h
  obtain ⟨q, whole⟩ : ∃ q, num / den = q := ⟨_, rfl⟩
  obtain ⟨r, rest⟩ : ∃ r, num % den = r := ⟨_, rfl⟩
  have less : r < den := rest ▸ Nat.mod_lt num positive
  have parts : q * den + r = num := by rw [← whole, ← rest, Nat.div_add_mod']
  -- the natural is the whole part or the one behind it
  have near : q = k ∨ q + 1 = k := by
    rcases Nat.lt_trichotomy (q + 1) k with far | next | back
    · have steps : (q + 2) * den ≤ k * den := Nat.mul_le_mul_right den far
      rw [Nat.add_mul] at steps
      omega
    · exact .inr next
    · rcases Nat.lt_or_ge k q with far | same
      · have steps : (k + 1) * den ≤ q * den := Nat.mul_le_mul_right den far
        rw [Nat.add_mul, Nat.one_mul] at steps
        omega
      · exact .inl (by omega)
  unfold roundQuotient
  dsimp only
  rw [whole, rest]
  rcases near with rfl | rfl
  · split
    · rfl
    · next above =>
      rw [Nat.compare_eq_gt] at above
      omega
    · next tie =>
      rw [Nat.compare_eq_eq] at tie
      rw [if_pos (by omega)]
  · rw [Nat.add_mul, Nat.one_mul] at h
    split
    · next below =>
      rw [Nat.compare_eq_lt] at below
      omega
    · rfl
    · next tie =>
      rw [Nat.compare_eq_eq] at tie
      rw [if_neg (by omega)]

/-- A natural stands between the power of its binary length and the next one. -/
theorem log2_bounds {n : Nat} (h : n ≠ 0) :
    (2 : ℚ) ^ (n.log2 : Int) ≤ n ∧ (n : ℚ) < 2 ^ ((n.log2 : Int) + 1) := by
  have low : 2 ^ n.log2 ≤ n := Nat.log2_self_le h
  have high : n < 2 ^ (n.log2 + 1) := Nat.lt_log2_self
  refine ⟨by exact_mod_cast low, by exact_mod_cast high⟩

/-- A quotient stands between the power of its scale and the next one. -/
theorem quotientScale_bounds {num den : Nat} (hn : num ≠ 0) (hd : den ≠ 0) :
    (2 : ℚ) ^ quotientScale num den ≤ num / den ∧
      (num / den : ℚ) < 2 ^ (quotientScale num den + 1) := by
  have unit : (0 : ℚ) < den := by exact_mod_cast Nat.pos_of_ne_zero hd
  obtain ⟨numLow, numHigh⟩ := log2_bounds hn
  obtain ⟨denLow, denHigh⟩ := log2_bounds hd
  obtain ⟨e, scale⟩ : ∃ e : Int, (num.log2 : Int) - den.log2 = e := ⟨_, rfl⟩
  have two : (2 : ℚ) ≠ 0 := by norm_num
  have reaches : den * Nat.pow 2 e.toNat ≤ num * Nat.pow 2 (-e).toNat ↔
      (2 : ℚ) ^ e ≤ num / den := by
    have power : (0 : ℚ) < 2 ^ (-e).toNat := by positivity
    rw [le_div_iff₀ unit, ← mul_le_mul_iff_left₀ power, ← Nat.cast_le (α := ℚ)]
    simp only [Nat.pow_eq]
    push_cast
    rw [← zpow_toNat (by norm_num : (0 : ℚ) < 2) e]
    constructor <;> intro h <;> linarith
  have below : (num / den : ℚ) < 2 ^ (e + 1) := by
    rw [div_lt_iff₀ unit]
    have exact' : (2 : ℚ) ^ ((num.log2 : Int) + 1) = 2 ^ (e + 1) * 2 ^ (den.log2 : Int) := by
      rw [← zpow_add₀ two, ← scale]
      congr 1
      omega
    calc (num : ℚ) < 2 ^ (e + 1) * 2 ^ (den.log2 : Int) := exact' ▸ numHigh
      _ ≤ 2 ^ (e + 1) * den := by gcongr
  have above : (2 : ℚ) ^ (e - 1) ≤ num / den := by
    rw [le_div_iff₀ unit]
    have exact' : (2 : ℚ) ^ (num.log2 : Int) = 2 ^ (e - 1) * 2 ^ ((den.log2 : Int) + 1) := by
      rw [← zpow_add₀ two, ← scale]
      congr 1
      omega
    calc (2 : ℚ) ^ (e - 1) * den ≤ 2 ^ (e - 1) * 2 ^ ((den.log2 : Int) + 1) := by gcongr
      _ ≤ num := exact' ▸ numLow
  unfold quotientScale
  dsimp only
  rw [scale]
  split
  · next reached => exact ⟨reaches.mp reached, below⟩
  · next short =>
    rw [reaches, not_le] at short
    exact ⟨above, by rwa [sub_add_cancel]⟩

end BaseGateway.Decimal
