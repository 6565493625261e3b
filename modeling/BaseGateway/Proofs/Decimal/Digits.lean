import Mathlib.Data.List.TakeWhile
import BaseGateway.Decimal.Lenient
import BaseGateway.Proofs.Value.Json

/-!
# The values of digits

A run of digits stands for a number of no more digits, so that whatever is read under the limit on
digits is short; so is the integer next to a float. The digits that a number is written with stand
for that number.
-/

namespace BaseGateway.Decimal

theorem digit_le {c : Char} (h : c.isDigit = true) : c.toNat - 48 ≤ 9 := by
  simp only [Char.isDigit, Bool.and_eq_true, decide_eq_true_eq] at h
  have high : c.toNat ≤ 57 := h.2
  omega

theorem foldl_digits_lt {s : List Char} (h : ∀ c ∈ s, c.isDigit = true) (n : Nat) :
    s.foldl (fun n c => 10 * n + (c.toNat - 48)) n < (n + 1) * 10 ^ s.length := by
  induction s generalizing n with
  | nil => simp
  | cons c rest ih =>
    have digit := digit_le (h c List.mem_cons_self)
    have tail := ih (fun d mem => h d (List.mem_cons_of_mem _ mem)) (10 * n + (c.toNat - 48))
    have step : (10 * n + (c.toNat - 48) + 1) * 10 ^ rest.length ≤
        (10 * (n + 1)) * 10 ^ rest.length := Nat.mul_le_mul_right _ (by omega)
    rw [List.foldl_cons, List.length_cons, Nat.pow_succ]
    calc rest.foldl (fun n c => 10 * n + (c.toNat - 48)) (10 * n + (c.toNat - 48))
        < (10 * n + (c.toNat - 48) + 1) * 10 ^ rest.length := tail
      _ ≤ (10 * (n + 1)) * 10 ^ rest.length := step
      _ = (n + 1) * (10 ^ rest.length * 10) := by
        rw [Nat.mul_comm 10 (n + 1), Nat.mul_assoc, Nat.mul_comm 10]

/-- Digits stand for a number of no more digits. -/
theorem digitsValue_lt {s : List Char} (h : ∀ c ∈ s, c.isDigit = true) :
    digitsValue s < 10 ^ s.length := by
  have bound := foldl_digits_lt h 0
  rwa [Nat.zero_add, Nat.one_mul] at bound

/-- An integer read from no more digits than the limit is short. -/
theorem isShort_of_digits {s : List Char} (h : ∀ c ∈ s, c.isDigit = true)
    (few : s.length ≤ maxDigits) (negative : Bool) :
    IsShort (if negative then -(digitsValue s : Int) else digitsValue s) := by
  have bound := digitsValue_lt h
  have room : 10 ^ s.length ≤ 10 ^ maxDigits := Nat.pow_le_pow_right (by decide) few
  refine ⟨?_⟩
  cases negative with
  | true =>
    rw [if_pos rfl, Int.natAbs_neg, Int.natAbs_natCast]
    exact Nat.lt_of_lt_of_le bound room
  | false =>
    rw [if_neg (by simp), Int.natAbs_natCast]
    exact Nat.lt_of_lt_of_le bound room

/-- An integer that is read from a text is short. -/
theorem isShort_of_readInt {s : String} {n : Int} (h : readInt s = .ok n) : IsShort n := by
  unfold readInt at h
  dsimp only at h
  split at h
  · cases h
  · next digits _ =>
    split at h
    · cases h
    · next wellFormed =>
      split at h
      · cases h
      · next few =>
        obtain rfl := Except.ok.inj h
        simp only [Bool.or_eq_true, Bool.not_eq_true', not_or, Bool.not_eq_false] at wellFormed
        exact isShort_of_digits (List.all_eq_true.mp wellFormed.2) (by omega) _

theorem Lenient.plainDigits?_digits {s : List Char} {n : Nat} (h : plainDigits? s = some n) :
    n = digitsValue s ∧ ∀ c ∈ s, c.isDigit = true := by
  unfold plainDigits? at h
  split at h
  · cases h
  · exact ⟨(Option.some.inj h).symm, by simp⟩
  · dsimp only at h
    split at h
    · next plain =>
      rw [Bool.and_eq_true, List.all_eq_true] at plain
      exact ⟨(Option.some.inj h).symm, plain.2⟩
    · cases h

/-- So is an integer that is read leniently. -/
theorem Lenient.isShort_of_readInt {s : String} {n : Int} (h : readInt s = .ok n) : IsShort n := by
  have short {digits : List Char} {m : Nat} (read : plainDigits? digits = some m)
      (few : (digits.takeWhile Char.isDigit).length ≤ maxDigits) (negative : Bool) :
      IsShort (if negative then -(m : Int) else m) := by
    obtain ⟨rfl, all⟩ := plainDigits?_digits read
    rw [List.takeWhile_eq_self_iff.mpr all] at few
    exact isShort_of_digits all few negative
  unfold readInt at h
  split at h
  · cases h
  · next numeral _ =>
    dsimp only at h
    split at h
    · cases h
    · next few =>
      split at h
      · next digits _ =>
        rw [numeralLength] at few
        cases read : plainDigits? digits with
        | none =>
          rw [read] at h
          cases h
        | some m =>
          rw [read] at h
          obtain rfl := Except.ok.inj h
          exact short read (by omega) true
      · next other =>
        rw [numeralLength.eq_2 numeral other] at few
        cases read : plainDigits? numeral with
        | none =>
          rw [read] at h
          cases h
        | some m =>
          rw [read] at h
          obtain rfl := Except.ok.inj h
          exact short read (by omega) false

/-- A number of no more bits than there are digits is short. -/
theorem isShort_of_bits {n : Int} {bits : Nat} (few : bits ≤ maxDigits)
    (h : n.natAbs < 2 ^ bits) : IsShort n := by
  have wider : 2 ^ bits ≤ 10 ^ bits := Nat.pow_le_pow_left (by decide) bits
  have longer : 10 ^ bits ≤ 10 ^ maxDigits := Nat.pow_le_pow_right (by decide) few
  exact ⟨Nat.lt_of_lt_of_le h (Nat.le_trans wider longer)⟩

theorem floor_lt (b : Binary) {bits : Nat} (short : b.m < 2 ^ bits) :
    b.floor < 2 ^ (bits + b.q.toNat) :=
  calc b.floor
      ≤ b.m * 2 ^ b.q.toNat := Nat.div_le_self _ _
    _ < 2 ^ bits * 2 ^ b.q.toNat := Nat.mul_lt_mul_of_pos_right short (Nat.pow_pos (by decide))
    _ = 2 ^ (bits + b.q.toNat) := (Nat.pow_add 2 bits b.q.toNat).symm

/-- The magnitude of a float has fifty-three bits and a bounded exponent. -/
theorem ofFloat_bits {x : Float} {negative : Bool} {b : Binary}
    (h : Reading.ofFloat x = .finite negative b) : b.m < 2 ^ 53 ∧ b.q.toNat ≤ 971 := by
  unfold Reading.ofFloat at h
  simp only [Nat.pow_eq] at h
  split at h
  · split at h <;> cases h
  · next finite =>
    obtain ⟨_, rfl⟩ := Reading.finite.inj h
    have exponent := Nat.mod_lt (x.toBits.toNat / 2 ^ 52) (by decide : 0 < 2 ^ 11)
    have fraction := Nat.mod_lt x.toBits.toNat (by decide : 0 < 2 ^ 52)
    unfold Binary.ofFields
    split
    · dsimp only
      omega
    · simp only [Nat.pow_eq]
      omega

/-- A float loses its fraction to an integer that is short. -/
theorem isShort_truncate {x : Float} {negative : Bool} {b : Binary}
    (h : Reading.ofFloat x = .finite negative b) : IsShort (truncate negative b) := by
  obtain ⟨bits, exponent⟩ := ofFloat_bits h
  have few : 53 + b.q.toNat ≤ maxDigits := by
    have limit : maxDigits = 4300 := rfl
    omega
  refine isShort_of_bits few ?_
  have below := floor_lt b bits
  unfold truncate
  split
  · rwa [Int.natAbs_neg, Int.natAbs_natCast]
  · rwa [Int.natAbs_natCast]

theorem digitsValue_natChars (n : Nat) : digitsValue (natChars n) = n :=
  Nat.ofDigitChars_ten_toDigits

/-- The digits behind others stand for what they stand for by themselves. -/
theorem digitsValue_append (s t : List Char) :
    digitsValue (s ++ t) = 10 ^ t.length * digitsValue s + digitsValue t := by
  have whole : digitsValue (s ++ t) = Nat.ofDigitChars 10 t (digitsValue s) :=
    Nat.ofDigitChars_append 0
  rw [whole, Nat.ofDigitChars_eq_ofDigitChars_zero]
  rfl

theorem digitsValue_replicate (n : Nat) : digitsValue (List.replicate n '0') = 0 := by
  induction n with
  | zero => rfl
  | succ n ih => exact ih

theorem digitsValue_zeros (n : Nat) (s : List Char) :
    digitsValue (List.replicate n '0' ++ s) = digitsValue s := by
  rw [digitsValue_append, digitsValue_replicate, Nat.mul_zero, Nat.zero_add]

theorem length_natChars_le {n : Nat} (h : n < 10 ^ maxDigits) : (natChars n).length ≤ maxDigits :=
  (Nat.length_toDigits_le_iff (by decide) (by decide)).mpr h

theorem isDigit_of_mem_natChars {n : Nat} : ∀ c ∈ natChars n, c.isDigit = true :=
  fun _ mem => Nat.isDigit_of_mem_toDigits (by decide) (by decide) mem

/-- The digits of a number begin with a nought for nought alone. -/
theorem natChars_head {n : Nat} (h : (natChars n).head? = some '0') : natChars n = ['0'] := by
  induction n using Nat.strongRecOn with
  | _ n ih =>
    by_cases small : n < 10
    · rw [natChars, Nat.toDigits_of_lt_base small] at h ⊢
      rw [List.head?_cons, Option.some.injEq] at h
      rw [h]
    · have split : natChars n = natChars (n / 10) ++ [Nat.digitChar (n % 10)] :=
        Nat.toDigits_of_base_le (by decide) (by omega)
      have nonempty : natChars (n / 10) ≠ [] := Nat.toDigits_ne_nil
      rw [split, List.head?_append_of_ne_nil _ nonempty] at h
      have lower := ih (n / 10) (by omega) h
      have value := digitsValue_natChars (n / 10)
      rw [lower] at value
      have nought : digitsValue ['0'] = 0 := rfl
      omega

end BaseGateway.Decimal
