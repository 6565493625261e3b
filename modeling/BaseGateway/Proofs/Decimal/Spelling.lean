import BaseGateway.Decimal.Numeral
import BaseGateway.Proofs.Decimal.Digits
import BaseGateway.Proofs.Decimal.Layout
import BaseGateway.Proofs.Decimal.ReadBack

/-!
# Floats read back from their spelling

A decimal is spelled by the digits before its point, those behind it and an exponent. Positionally
or with an exponent, the digits of a float are spelled with the number they stand for
(`exists_spelling`), and the spelling is read as that number (`Spelling.readMagnitude?_chars`), so
that the text of a float is read back as the float (`exists_spelling_of_finite`).
-/

namespace BaseGateway.Decimal

open Grammar

/-- The parts of a decimal without a sign. -/
structure Spelling where
  whole : List Char
  places : List Char := []
  exponent : Option Int := none

namespace Spelling

/-- All the digits as one number. -/
def number (s : Spelling) : Nat := digitsValue (s.whole ++ s.places)

/-- The power of ten that the number stands in front of. -/
def scale (s : Spelling) : Int := s.exponent.getD 0 - s.places.length

/-- The number that is spelled. -/
def value (s : Spelling) : ℚ := s.number * 10 ^ s.scale

/-- The characters of the exponent, none where it is left out. -/
def power (s : Spelling) : List Char := s.exponent.elim [] exponentChars

def chars (s : Spelling) : List Char :=
  s.whole ++ (if s.places.isEmpty then [] else '.' :: s.places) ++ s.power

/-- The parts are those of a float: digits without a nought that could be left out, a point or an
exponent among them, and an exponent of no more than twenty digits. -/
structure IsFloat (s : Spelling) : Prop where
  whole : DigitRun s.whole
  places : ∀ c ∈ s.places, c.isDigit = true
  leading : s.whole.head? = some '0' → s.whole = ['0']
  marked : s.places ≠ [] ∨ s.exponent ≠ none
  room : ∀ e, s.exponent = some e → e.natAbs < 10 ^ 20

end Spelling

/-! ## Exponents -/

/-- The digits of an exponent, at least two. -/
def exponentDigits (n : Nat) : List Char :=
  if (natChars n).length < 2 then '0' :: natChars n else natChars n

theorem exponentChars_eq (e : Int) : exponentChars e =
    'e' :: (if e < 0 then '-' else '+') :: exponentDigits e.natAbs := rfl

theorem digitRun_exponentDigits (n : Nat) : DigitRun (exponentDigits n) := by
  unfold exponentDigits
  split
  · exact ⟨List.cons_ne_nil _ _, List.forall_mem_cons.mpr ⟨by decide, (digits_natChars n).2⟩⟩
  · exact digits_natChars n

/-- The digits of an exponent stand for it, noughts in front or not. -/
theorem digitsValue_exponentDigits {n : Nat} (room : n < 10 ^ 20) :
    digitsValue ((exponentDigits n).dropWhile (· == '0') |>.take 20) = n := by
  by_cases nought : n = 0
  · rw [nought]
    rfl
  · have short : (natChars n).length ≤ 20 :=
      (Nat.length_toDigits_le_iff (by decide) (by decide)).mpr room
    have first : (natChars n).dropWhile (· == '0') = natChars n := by
      obtain ⟨c, digits, same⟩ := List.exists_cons_of_ne_nil (digits_natChars n).1
      have other : c ≠ '0' := by
        rintro rfl
        have alone := natChars_head (n := n) (by rw [same, List.head?_cons])
        have value := digitsValue_natChars n
        rw [alone] at value
        exact nought value.symm
      rw [same, List.dropWhile_cons_of_neg (by simpa using other)]
    have stripped : (exponentDigits n).dropWhile (· == '0') = natChars n := by
      unfold exponentDigits
      split
      · rw [List.dropWhile_cons_of_pos rfl, first]
      · exact first
    rw [stripped, List.take_of_length_le short, digitsValue_natChars]

/-- What is behind the digits of a number: nothing, or an exponent. -/
def readPower? (build : Int → Float) : List Char → Option Float
  | [] => some (build 0)
  | mark :: tail =>
    if mark == 'e' || mark == 'E' then
      let (negative, digits) := splitSign tail
      if digits.isEmpty || !digits.all Char.isDigit then none
      else
        let e : Int := digitsValue (digits.dropWhile (· == '0') |>.take 20)
        some (build (if negative then -e else e))
    else none

theorem readPower?_exponentChars (build : Int → Float) {e : Int} (room : e.natAbs < 10 ^ 20) :
    readPower? build (exponentChars e) = some (build e) := by
  have digits := digitRun_exponentDigits e.natAbs
  have well : ((exponentDigits e.natAbs).isEmpty || !(exponentDigits e.natAbs).all Char.isDigit) =
      false := by
    rw [List.isEmpty_eq_false_iff.mpr digits.1, List.all_eq_true.mpr digits.2]
    rfl
  have value := digitsValue_exponentDigits room
  rw [exponentChars_eq, readPower?]
  by_cases negative : e < 0
  · have sign : -(e.natAbs : Int) = e := by omega
    simp only [negative, if_true, splitSign, well, value, sign]
    rfl
  · have sign : (e.natAbs : Int) = e := by omega
    simp only [negative, if_false, splitSign, well, value, sign]
    rfl

/-! ## The text of a spelling -/

/-- Digits end where no digit follows. -/
theorem span_digits {s t : List Char} (digits : ∀ c ∈ s, c.isDigit = true)
    (stop : ∀ c, t.head? = some c → c.isDigit = false) :
    (s ++ t).takeWhile Char.isDigit = s ∧ (s ++ t).dropWhile Char.isDigit = t := by
  rw [List.takeWhile_append_of_pos digits, List.dropWhile_append_of_pos digits]
  cases t with
  | nil => simp
  | cons c rest => simp [stop c rfl]

namespace Spelling

variable {s : Spelling}

/-- What stands behind the digits before the point. -/
def behind (s : Spelling) : List Char :=
  (if s.places.isEmpty then [] else '.' :: s.places) ++ s.power

theorem chars_eq (s : Spelling) : s.chars = s.whole ++ s.behind := List.append_assoc ..

theorem readPower?_power (build : Int → Float)
    (room : ∀ e, s.exponent = some e → e.natAbs < 10 ^ 20) :
    readPower? build s.power = some (build (s.exponent.getD 0)) := by
  unfold power
  cases exponent : s.exponent with
  | none => rfl
  | some e => exact readPower?_exponentChars build (room e exponent)

/-- No digit begins an exponent. -/
theorem power_stops (s : Spelling) {rest : List Char}
    (stop : ∀ c, rest.head? = some c → c.isDigit = false) :
    ∀ c, (s.power ++ rest).head? = some c → c.isDigit = false := by
  unfold power
  cases s.exponent with
  | none => exact stop
  | some e =>
    intro c head
    obtain rfl := Option.some.inj head
    rfl

theorem behind_stops (s : Spelling) {rest : List Char}
    (stop : ∀ c, rest.head? = some c → c.isDigit = false) :
    ∀ c, (s.behind ++ rest).head? = some c → c.isDigit = false := by
  unfold behind
  split
  · exact power_stops s stop
  · intro c head
    obtain rfl := Option.some.inj head
    rfl

/-- A spelling is read as the number it stands for. -/
theorem readMagnitude?_chars (h : s.IsFloat) :
    readMagnitude? s.chars = some (floatOfDigits s.number s.scale) := by
  have stop := @behind_stops s [] (by simp)
  have stop' := @power_stops s [] (by simp)
  rw [List.append_nil] at stop stop'
  obtain ⟨taken, dropped⟩ := span_digits h.whole.2 stop
  obtain ⟨taken', dropped'⟩ := span_digits h.places stop'
  have nonempty : s.whole.isEmpty = false := List.isEmpty_eq_false_iff.mpr h.whole.1
  have power : readPower? (fun e => floatOfDigits s.number (e - s.places.length)) s.power =
      some (floatOfDigits s.number s.scale) := readPower?_power _ h.room
  rw [← power]
  unfold readMagnitude?
  dsimp only
  rw [chars_eq, taken, dropped, nonempty, Bool.false_and, if_neg Bool.false_ne_true]
  unfold behind
  cases places : s.places with
  | nil =>
    unfold Spelling.power number
    rw [places]
    cases exponent : s.exponent with
    | none => exact absurd exponent (h.marked.resolve_left (not_not.mpr places))
    | some e => rfl
  | cons c rest =>
    rw [places] at taken' dropped'
    simp only [List.isEmpty_cons, Bool.false_eq_true, if_false, List.cons_append]
      at taken' dropped' ⊢
    rw [taken', dropped', number, places]
    rfl

end Spelling

/-! ## The spelling of digits -/

section

variable {digits : List Char}

/-- A spelling without an exponent. -/
theorem value_positional (whole places : List Char) :
    (Spelling.mk whole places none).value =
      digitsValue (whole ++ places) * 10 ^ (-(places.length : Int)) := by
  rw [Spelling.value, Spelling.number, Spelling.scale, Option.getD_none, zero_sub]

/-- Digits with a point among them, before them or behind them are spelled positionally. -/
theorem exists_pointed (run : DigitRun digits) (first : digits.head? ≠ some '0') (point : Int) :
    ∃ s : Spelling, s.IsFloat ∧ pointed digits point = s.chars ∧
      s.value = digitsValue digits * 10 ^ (point - digits.length) := by
  unfold pointed
  split
  · next before =>
    have places : List.replicate (-point).toNat '0' ++ digits ≠ [] := by simp [run.1]
    refine ⟨⟨['0'], List.replicate (-point).toNat '0' ++ digits, none⟩,
      ⟨⟨by simp, by simp⟩, List.forall_mem_append.mpr ⟨digits_zeros _, run.2⟩, fun _ => rfl,
        .inl places, by simp⟩, ?_, ?_⟩
    · simp [Spelling.chars, Spelling.power, List.isEmpty_eq_false_iff.mpr places]
    · have noughts : digitsValue (['0'] ++ (List.replicate (-point).toNat '0' ++ digits)) =
          digitsValue digits := digitsValue_zeros ((-point).toNat + 1) digits
      have scale : -((List.replicate (-point).toNat '0' ++ digits).length : Int) =
          point - digits.length := by
        rw [List.length_append, List.length_replicate]
        omega
      rw [value_positional, noughts, scale]
  · split
    · next behind =>
      obtain ⟨k, room⟩ : ∃ k : Nat, point = digits.length + k :=
        ⟨(point - digits.length).toNat, by omega⟩
      have more : point.toNat - digits.length = k := by omega
      refine ⟨⟨digits ++ List.replicate k '0', ['0'], none⟩,
        ⟨⟨by simp [run.1], List.forall_mem_append.mpr ⟨run.2, digits_zeros _⟩⟩, by simp, ?_,
          .inl (by simp), by simp⟩, ?_, ?_⟩
      · intro nought
        rw [List.head?_append_of_ne_nil _ run.1] at nought
        exact absurd nought first
      · rw [more]
        simp [Spelling.chars, Spelling.power]
      · have value : digitsValue (digits ++ List.replicate k '0' ++ ['0']) =
            10 ^ (k + 1) * digitsValue digits := by
          rw [List.append_assoc, ← List.replicate_succ', digitsValue_append,
            digitsValue_replicate, List.length_replicate, Nat.add_zero]
        rw [value_positional, value, room, add_sub_cancel_left]
        push_cast
        rw [pow_succ, zpow_natCast]
        norm_num
        ring
    · next inside short =>
      have before : digits.take point.toNat ≠ [] := by
        rw [Ne, List.take_eq_nil_iff]
        exact not_or.mpr ⟨by omega, run.1⟩
      have behind : digits.drop point.toNat ≠ [] := by
        rw [Ne, List.drop_eq_nil_iff]
        omega
      refine ⟨⟨digits.take point.toNat, digits.drop point.toNat, none⟩,
        ⟨⟨before, fun c mem => run.2 c (List.mem_of_mem_take mem)⟩,
          fun c mem => run.2 c (List.mem_of_mem_drop mem), ?_, .inl behind, by simp⟩, ?_, ?_⟩
      · intro nought
        rw [List.head?_take, if_neg (by omega)] at nought
        exact absurd nought first
      · simp [Spelling.chars, Spelling.power, List.isEmpty_eq_false_iff.mpr behind]
      · have scale : -((digits.drop point.toNat).length : Int) = point - digits.length := by
          rw [List.length_drop]
          omega
        rw [value_positional, List.take_append_drop, scale]

/-- Digits in front of an exponent are spelled with a point behind the first of them. -/
theorem exists_scientific (run : DigitRun digits) (first : digits.head? ≠ some '0') {e : Int}
    (room : e.natAbs < 10 ^ 20) :
    ∃ s : Spelling, s.IsFloat ∧ scientific digits e = s.chars ∧
      s.value = digitsValue digits * 10 ^ (e + 1 - digits.length) := by
  match digits, run, first with
  | [], run, _ => exact absurd rfl run.1
  | d :: rest, run, first =>
    refine ⟨⟨[d], rest, some e⟩,
      ⟨⟨by simp, ?_⟩, ?_, ?_, .inr (by simp), by simpa using room⟩, ?_, ?_⟩
    · exact List.forall_mem_singleton.mpr (run.2 d List.mem_cons_self)
    · exact fun c mem => run.2 c (List.mem_cons_of_mem _ mem)
    · exact fun nought => absurd nought first
    · cases rest <;> rfl
    · have scale : e - (rest.length : Int) = e + 1 - (d :: rest).length := by
        rw [List.length_cons]
        push_cast
        ring
      rw [Spelling.value, Spelling.number, Spelling.scale, Option.getD_some, scale]
      rfl

/-- The digits of a positive decimal are spelled with the number they stand for. -/
theorem exists_spelling {d : Digits} (positive : d.digits ≠ 0)
    (room : ((natChars d.digits).length - 1 + d.exp).natAbs < 10 ^ 20) :
    ∃ s : Spelling, s.IsFloat ∧ d.chars = s.chars ∧ s.value = d.value := by
  have first : (natChars d.digits).head? ≠ some '0' := by
    intro nought
    have value := digitsValue_natChars d.digits
    rw [natChars_head nought] at value
    exact positive value.symm
  have run := digits_natChars d.digits
  unfold Digits.chars
  dsimp only
  split
  · obtain ⟨s, float, chars, value⟩ := exists_pointed run first
      ((natChars d.digits).length - 1 + d.exp + 1)
    refine ⟨s, float, chars, value.trans ?_⟩
    rw [digitsValue_natChars, Digits.value]
    congr 2
    ring
  · obtain ⟨s, float, chars, value⟩ := exists_scientific run first room
    refine ⟨s, float, chars, value.trans ?_⟩
    rw [digitsValue_natChars, Digits.value]
    congr 2
    ring

end

/-! ## The size of a decimal -/

/-- A number lies between the powers of ten that its digits give. -/
theorem natChars_bounds {n : Nat} (positive : n ≠ 0) :
    (10 : ℚ) ^ ((natChars n).length - 1 : Int) ≤ n ∧
      (n : ℚ) < 10 ^ ((natChars n).length : Int) := by
  have some : 0 < (natChars n).length := List.length_pos_of_ne_nil (digits_natChars n).1
  constructor
  · have reached : 10 ^ ((natChars n).length - 1) ≤ n := by
      by_cases one : (natChars n).length - 1 = 0
      · rw [one]
        exact Nat.pos_of_ne_zero positive
      · rw [← Nat.not_lt, ← Nat.length_toDigits_le_iff (by decide) (Nat.pos_of_ne_zero one)]
        change ¬(natChars n).length ≤ _
        omega
    have down : ((natChars n).length - 1 : Int) = ((natChars n).length - 1 : Nat) := by omega
    rw [down, zpow_natCast]
    exact_mod_cast reached
  · have below : n < 10 ^ (natChars n).length :=
      (Nat.length_toDigits_le_iff (by decide) some).mp (Nat.le_refl _)
    rw [zpow_natCast]
    exact_mod_cast below

section

variable {x : Binary} {v : ℚ}

theorem le_of_isNear (normal : x.IsNormal) (h : x.IsNear v) : (2 : ℚ) ^ (x.q - 1) ≤ v := by
  have unit : (0 : ℚ) < 2 ^ (x.q - 2) := by positivity
  have two : 2 ≤ x.below := by
    have positive := normal.positive
    unfold Binary.below
    split <;> omega
  have two' : (2 : ℚ) ≤ x.below := by exact_mod_cast two
  have low := (isNear_quarters h).1
  rw [le_div_iff₀ unit] at low
  calc (2 : ℚ) ^ (x.q - 1) = 2 * 2 ^ (x.q - 2) := by
        rw [← zpow_one_add₀ (by norm_num : (2 : ℚ) ≠ 0)]
        congr 1
        ring
    _ ≤ x.below * 2 ^ (x.q - 2) := by gcongr
    _ ≤ v := low

theorem two_pow_le {n k : Nat} (h : n ≤ 3 * k) : (2 : ℚ) ^ (n : Int) ≤ 10 ^ (k : Int) := by
  rw [zpow_natCast, zpow_natCast]
  calc (2 : ℚ) ^ n ≤ 2 ^ (3 * k) := by gcongr; norm_num
    _ = (2 ^ 3) ^ k := pow_mul ..
    _ ≤ 10 ^ k := by gcongr; norm_num

/-- The size of a decimal near a magnitude is in the range of doubles. -/
theorem size_of_isNear (normal : x.IsNormal) {n : Nat} {e : Int} (h : x.IsNear (n * 10 ^ e)) :
    n ≠ 0 ∧ -400 ≤ (natChars n).length + e ∧ (natChars n).length + e ≤ 400 := by
  have ten : (10 : ℚ) ≠ 0 := by norm_num
  have unit : (0 : ℚ) < 10 ^ e := by positivity
  have low : (2 : ℚ) ^ (-1075 : Int) ≤ n * 10 ^ e :=
    le_trans (zpow_le_zpow_right₀ (by norm_num) (by have := normal.least; omega))
      (le_of_isNear normal h)
  have high : n * 10 ^ e < (2 : ℚ) ^ (1024 : Int) :=
    lt_of_lt_of_le (isNear_lt normal h)
      (zpow_le_zpow_right₀ (by norm_num) (by have := normal.most; omega))
  have positive : n ≠ 0 := by
    rintro rfl
    rw [Nat.cast_zero, zero_mul] at low
    exact absurd low (not_le.mpr (by positivity))
  obtain ⟨least, most⟩ := natChars_bounds positive
  have grows {i j : Int} (h : (10 : ℚ) ^ i < 10 ^ j) : i < j :=
    (zpow_lt_zpow_iff_right₀ (by norm_num)).mp h
  have above : -400 < (natChars n).length + e := by
    have small : (10 : ℚ) ^ (-400 : Int) ≤ 2 ^ (-1075 : Int) := by
      rw [zpow_neg, zpow_neg]
      exact inv_anti₀ (by positivity) (two_pow_le (by decide))
    refine grows (lt_of_le_of_lt small (lt_of_le_of_lt low ?_))
    rw [zpow_add₀ ten]
    exact mul_lt_mul_of_pos_right most unit
  have under : (natChars n).length - 1 + e < 400 := by
    refine grows (lt_of_le_of_lt ?_ (lt_of_lt_of_le high (two_pow_le (by decide))))
    rw [zpow_add₀ ten]
    gcongr
  exact ⟨positive, by omega, by omega⟩

/-- A decimal near a magnitude is read as it. -/
theorem floatOfDigits_isNear (normal : x.IsNormal) {n : Nat} {e : Int}
    (h : x.IsNear (n * 10 ^ e)) : floatOfDigits n e = Float.ofBits x.bits.toUInt64 := by
  obtain ⟨positive, above, under⟩ := size_of_isNear normal h
  have num : n * Nat.pow 10 e.toNat ≠ 0 := Nat.mul_ne_zero positive (by simp [Nat.pow_eq])
  have den : Nat.pow 10 (-e).toNat ≠ 0 := by simp [Nat.pow_eq]
  have quotient : ((n * Nat.pow 10 e.toNat : Nat) : ℚ) / (Nat.pow 10 (-e).toNat : Nat) =
      n * 10 ^ e := by
    have power : (0 : ℚ) < 10 ^ (-e).toNat := by positivity
    simp only [Nat.pow_eq]
    push_cast
    rw [div_eq_iff power.ne', ← zpow_toNat (by norm_num : (0 : ℚ) < 10) e]
    ring
  rw [← quotient] at h
  unfold floatOfDigits
  rw [if_neg positive]
  dsimp only
  rw [if_neg (by omega), if_neg (by omega), nearestFloat, if_neg num,
    nearestBits_of_isNear normal num den h]

end

/-- The text of the magnitude of a float is read back as the magnitude. -/
theorem exists_spelling_of_finite {x : Float} {negative : Bool} {b : Binary}
    (h : Reading.ofFloat x = .finite negative b) :
    ∃ s : Spelling, s.IsFloat ∧
      (if b.m = 0 then "0.0".toList else b.shortest.chars) = s.chars ∧
      readMagnitude? s.chars = some (Float.ofBits b.bits.toUInt64) := by
  by_cases zero : b.m = 0
  · obtain ⟨exponent, fraction, _, _, rfl, _⟩ := exists_fields h
    have fields : exponent = 0 ∧ fraction = 0 := by
      unfold Binary.ofFields at zero
      split at zero
      · next least => exact ⟨least, zero⟩
      · have lead := Nat.two_pow_pos 52
        rw [← Nat.pow_eq] at lead
        dsimp only at zero
        omega
    have nought : (Binary.ofFields exponent fraction).bits = 0 := by
      rw [bits_ofFields, fields.1, fields.2, Nat.zero_mul]
    refine ⟨⟨['0'], ['0'], none⟩, ⟨⟨by simp, by simp⟩, by simp, fun _ => rfl, .inl (by simp),
      by simp⟩, if_pos zero, ?_⟩
    rw [nought]
    rfl
  · have normal := isNormal_of_finite h zero
    have near := shortest_isNear normal
    obtain ⟨positive, above, under⟩ := size_of_isNear normal near
    obtain ⟨s, float, chars, value⟩ := exists_spelling positive (by omega)
    refine ⟨s, float, (if_neg zero).trans chars, ?_⟩
    rw [← value] at near
    rw [Spelling.readMagnitude?_chars float, floatOfDigits_isNear normal near]

end BaseGateway.Decimal
