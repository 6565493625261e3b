import BaseGateway.Proofs.Json.Reading
import BaseGateway.Proofs.Json.Writing

/-!
# Strings and integers read back

What a string and an integer are written as is read back as the same string and the same integer.

* a string is read back character by character, whatever escape stands for each
  (`readString_escape`);
* an integer is read back where no digit, point or exponent follows (`readPlain_int`).
-/

namespace BaseGateway.Json

open Value

theorem hexValue?_digitChar {d : Nat} (h : d < 16) : hexValue? (Nat.digitChar d) = some d := by
  have all : ∀ d : Fin 16, hexValue? (Nat.digitChar d.val) = some d.val := by decide
  exact all ⟨d, h⟩

theorem hexDigits_four (n : Nat) : Text.hexDigits 4 n =
    [Nat.digitChar (n / 4096 % 16), Nat.digitChar (n / 256 % 16), Nat.digitChar (n / 16 % 16),
      Nat.digitChar (n % 16)] := by
  simp [Text.hexDigits, List.range_succ]

/-- Four hexadecimal digits are read back as their number. -/
theorem readUnit?_hexDigits {n : Nat} (h : n < 65536) {rest : List Char} (more : rest ≠ []) :
    readUnit? (Text.hexDigits 4 n ++ rest) = some (n, rest) := by
  have behind : rest.isEmpty = false := by simpa using more
  rw [hexDigits_four]
  simp only [readUnit?, List.cons_append, List.nil_append, behind, Bool.false_eq_true, if_false]
  have value : ∀ m, hexValue? (Nat.digitChar (m % 16)) = some (m % 16) :=
    fun m => hexValue?_digitChar (Nat.mod_lt m (by decide))
  rw [value, value, value, value]
  simp only [Option.bind_eq_bind, Option.bind_some, Option.pure_def, Option.some.injEq,
    Prod.mk.injEq, and_true]
  omega

/-- No character is half of a pair. -/
theorem not_surrogate (c : Char) :
    isHighSurrogate c.toNat = false ∧ isLowSurrogate c.toNat = false := by
  have valid : c.toNat < 0xD800 ∨ 0xDFFF < c.toNat ∧ c.toNat < 0x110000 := c.valid
  simp only [isHighSurrogate, isLowSurrogate, Bool.and_eq_false_iff, decide_eq_false_iff_not]
  omega

theorem unitChar_toNat (c : Char) : unitChar c.toNat = c := by
  obtain ⟨high, low⟩ := not_surrogate c
  rw [unitChar, high, low, Bool.or_self, if_neg Bool.false_ne_true, Char.ofNat_toNat]

/-- A character of one unit. -/
theorem readUnitEscape_single {c : Char} (h : c.toNat < 65536) {rest : List Char}
    (more : rest ≠ []) : readUnitEscape (Text.hexDigits 4 c.toNat ++ rest) = .ok (c, rest) := by
  unfold readUnitEscape
  rw [readUnit?_hexDigits h more]
  dsimp only
  split
  · rw [(not_surrogate c).1, Bool.false_and, if_neg Bool.false_ne_true, unitChar_toNat]
  · rw [unitChar_toNat]

/-- Two units that make a pair. -/
theorem readUnitEscape_units {high low : Nat} (first : isHighSurrogate high = true)
    (second : isLowSurrogate low = true) {rest : List Char} (more : rest ≠ []) :
    readUnitEscape (Text.hexDigits 4 high ++ (unitChars low ++ rest)) =
      .ok (Char.ofNat (0x10000 + (high - 0xD800) * 0x400 + (low - 0xDC00)), rest) := by
  have below : high < 65536 ∧ low < 65536 := by
    simp only [isHighSurrogate, isLowSurrogate, Bool.and_eq_true, decide_eq_true_eq] at first second
    omega
  have behind : unitChars low ++ rest ≠ [] := by simp [unitChars]
  have length : (Text.hexDigits 4 low).length = 4 := by simp [Text.hexDigits]
  have long : 4 < (Text.hexDigits 4 low ++ rest).length := by
    have some := List.length_pos_of_ne_nil more
    rw [List.length_append, length]
    omega
  unfold readUnitEscape
  rw [readUnit?_hexDigits below.1 behind]
  simp only [unitChars, List.cons_append]
  rw [first, Bool.true_and, if_pos (decide_eq_true long), readUnit?_hexDigits below.2 more]
  simp only [second, if_true]

/-- A character of two units. -/
theorem readUnitEscape_pair {c : Char} (h : 65536 ≤ c.toNat) {rest : List Char} (more : rest ≠ []) :
    readUnitEscape (Text.hexDigits 4 (0xD800 + (c.toNat - 0x10000) / 0x400) ++
      (unitChars (0xDC00 + (c.toNat - 0x10000) % 0x400) ++ rest)) = .ok (c, rest) := by
  have valid : c.toNat < 0xD800 ∨ 0xDFFF < c.toNat ∧ c.toNat < 0x110000 := c.valid
  have high : isHighSurrogate (0xD800 + (c.toNat - 0x10000) / 0x400) = true := by
    simp only [isHighSurrogate, Bool.and_eq_true, decide_eq_true_eq]
    omega
  have low : isLowSurrogate (0xDC00 + (c.toNat - 0x10000) % 0x400) = true := by
    simp only [isLowSurrogate, Bool.and_eq_true, decide_eq_true_eq]
    omega
  have same : 0x10000 + (0xD800 + (c.toNat - 0x10000) / 0x400 - 0xD800) * 0x400 +
      (0xDC00 + (c.toNat - 0x10000) % 0x400 - 0xDC00) = c.toNat := by omega
  rw [readUnitEscape_units high low more, same, Char.ofNat_toNat]

/-- A character that stands for itself. -/
theorem readString_plain (start fuel : Nat) {c : Char} (solid : ' ' ≤ c) (noQuote : c ≠ '"')
    (noSlash : c ≠ '\\') (rest : List Char) :
    readString start (fuel + 1) (c :: rest) =
      (do
        let (cs, rest) ← readString start fuel rest
        return (c :: cs, rest)) := by
  have visible : ¬c.toNat < 0x20 := Nat.not_lt.mpr solid
  rw [readString.eq_def]
  simp [noSlash, visible]

/-- Whatever a character is escaped to is read back as the character. -/
theorem readString_escapeChar (start fuel : Nat) (c : Char) {rest : List Char} (more : rest ≠ []) :
    readString start (fuel + 1) (escapeChar c ++ rest) =
      (do
        let (cs, rest) ← readString start fuel rest
        return (c :: cs, rest)) := by
  unfold escapeChar
  split
  · next letter short =>
    unfold shortEscape? at short
    split at short <;> cases short <;> simp [readString, unescape?]
  · next long =>
    split
    · next shown =>
      have noQuote : c ≠ '"' := by
        rintro rfl
        cases long
      have noSlash : c ≠ '\\' := by
        rintro rfl
        cases long
      exact readString_plain start fuel shown.1 noQuote noSlash rest
    · split
      · next small =>
        simp only [unitChars, List.cons_append]
        rw [readString, readUnitEscape_single small more]
        rfl
      · next large =>
        simp only [List.append_assoc]
        rw [unitChars, List.cons_append, List.cons_append, readString,
          readUnitEscape_pair (Nat.not_lt.mp large) more]
        rfl

/-- A string is read back up to its closing quote. -/
theorem readString_escape (start : Nat) {fuel : Nat} (s : List Char) {rest : List Char}
    (enough : s.length < fuel) :
    readString start fuel (s.flatMap escapeChar ++ '"' :: rest) = .ok (s, rest) := by
  induction s generalizing fuel with
  | nil =>
    obtain ⟨fuel, rfl⟩ := Nat.exists_eq_succ_of_ne_zero (Nat.ne_zero_of_lt enough)
    rw [List.flatMap_nil, List.nil_append, readString]
  | cons c s ih =>
    obtain ⟨fuel, rfl⟩ := Nat.exists_eq_succ_of_ne_zero (Nat.ne_zero_of_lt enough)
    have more : s.flatMap escapeChar ++ '"' :: rest ≠ [] := by simp
    have tail := ih (Nat.lt_of_succ_lt_succ enough)
    rw [List.flatMap_cons, List.append_assoc, readString_escapeChar start fuel c more, tail]
    rfl

/-- What may follow an integer: no digit, and nothing that makes it a float. -/
def Ends (rest : List Char) : Prop :=
  ∀ c, rest.head? = some c → c.isDigit = false ∧ c ≠ '.' ∧ c ≠ 'e' ∧ c ≠ 'E'

theorem Ends.takeWhile {rest : List Char} (ends : Ends rest) :
    rest.takeWhile Char.isDigit = [] := by
  cases rest with
  | nil => rfl
  | cons c r => simp [(ends c rfl).1]

theorem Ends.fractionDigits {rest : List Char} (ends : Ends rest) :
    Json.fractionDigits rest = [] := by
  unfold Json.fractionDigits
  split
  · exact absurd rfl (ends '.' rfl).2.1
  · rfl

theorem Ends.exponentPart {rest : List Char} (ends : Ends rest) : Json.exponentPart rest = [] := by
  cases rest with
  | nil => rfl
  | cons c r =>
    obtain ⟨_, _, small, large⟩ := ends c rfl
    simp [Json.exponentPart, small, large]

theorem wholeDigits_natChars (n : Nat) {rest : List Char} (ends : Ends rest) :
    wholeDigits (Decimal.natChars n ++ rest) = Decimal.natChars n := by
  have nonempty : Decimal.natChars n ≠ [] := Nat.toDigits_ne_nil
  have run : (Decimal.natChars n ++ rest).takeWhile Char.isDigit = Decimal.natChars n := by
    rw [List.takeWhile_append_of_pos Decimal.isDigit_of_mem_natChars, ends.takeWhile,
      List.append_nil]
  unfold wholeDigits
  split
  · next r begins =>
    have nought : (Decimal.natChars n).head? = some '0' := by
      have same : (Decimal.natChars n ++ rest).head? = (Decimal.natChars n).head? :=
        List.head?_append_of_ne_nil _ nonempty
      rw [← same, begins, List.head?_cons]
    exact (Decimal.natChars_head nought).symm
  · exact run

/-- A natural number is read back behind its sign. -/
theorem readUnsigned_natChars (negative : Bool) (left : Nat) {n : Nat}
    (short : n < 10 ^ Decimal.maxDigits) {rest : List Char} (ends : Ends rest) :
    readUnsigned negative left (Decimal.natChars n ++ rest) =
      .ok (.int (if negative then -(n : Int) else n), rest) := by
  have nonempty : (Decimal.natChars n).isEmpty = false :=
    List.isEmpty_eq_false_iff.mpr Nat.toDigits_ne_nil
  have few : ¬Decimal.maxDigits < (Decimal.natChars n).length :=
    Nat.not_lt.mpr (Decimal.length_natChars_le short)
  have behind : behindFraction rest = rest := by
    rw [behindFraction, ends.fractionDigits, List.isEmpty_nil, if_pos rfl]
  unfold readUnsigned
  dsimp only
  rw [wholeDigits_natChars n ends, List.drop_left, ends.fractionDigits, behind, ends.exponentPart,
    nonempty, if_neg Bool.false_ne_true, List.isEmpty_nil, Bool.and_self, if_pos rfl, if_neg few,
    Decimal.digitsValue_natChars, List.length_nil, List.drop_zero]

/-- Where no name begins, a number is read. -/
theorem readPlain_number {s : List Char} (h : ∀ c, s.head? = some c → c.isDigit = true) :
    readPlain s = readNumber s := by
  cases s with
  | nil => rfl
  | cons c r =>
    have digit : c.isDigit = true := h c rfl
    have other : c ≠ 'n' ∧ c ≠ 't' ∧ c ≠ 'f' ∧ c ≠ 'N' ∧ c ≠ 'I' ∧ c ≠ '-' := by
      refine ⟨?_, ?_, ?_, ?_, ?_, ?_⟩ <;> rintro rfl <;> cases digit
    obtain ⟨n, t, f, nan, infinity, minus⟩ := other
    simp [readPlain, names, List.isPrefixOf, n.symm, t.symm, f.symm, nan.symm, infinity.symm,
      minus.symm]

theorem readPlain_minus {c : Char} (h : c.isDigit = true) (r : List Char) :
    readPlain ('-' :: c :: r) = readNumber ('-' :: c :: r) := by
  have other : 'I' ≠ c := by
    rintro rfl
    cases h
  simp [readPlain, names, List.isPrefixOf, other]

/-- An integer is read back. -/
theorem readPlain_int {n : Int} (short : Decimal.IsShort n) {rest : List Char} (ends : Ends rest) :
    readPlain (Decimal.intChars n ++ rest) = .ok (.int n, rest) := by
  have nonempty : Decimal.natChars n.natAbs ≠ [] := Nat.toDigits_ne_nil
  obtain ⟨d, digits, begins⟩ := List.exists_cons_of_ne_nil nonempty
  have digit : d.isDigit = true :=
    Decimal.isDigit_of_mem_natChars d (begins ▸ List.mem_cons_self)
  by_cases negative : n < 0
  · have shown : Decimal.intChars n = '-' :: Decimal.natChars n.natAbs := by
      rw [Decimal.intChars, if_pos negative]
    have value : -(n.natAbs : Int) = n := by omega
    rw [shown, List.cons_append, begins, List.cons_append, readPlain_minus digit,
      readNumber_minus, ← List.cons_append, ← begins, readUnsigned_natChars _ _ short.bound ends,
      if_pos rfl, value]
  · have shown : Decimal.intChars n = Decimal.natChars n.natAbs := by
      rw [Decimal.intChars, if_neg negative]
    have value : (n.natAbs : Int) = n := by omega
    have first : ∀ c, (Decimal.natChars n.natAbs ++ rest).head? = some c → c.isDigit = true := by
      intro c head
      rw [begins, List.cons_append, List.head?_cons, Option.some.injEq] at head
      exact head ▸ digit
    have unsigned : (Decimal.natChars n.natAbs ++ rest).head? ≠ some '-' := by
      intro minus
      have wrong := first '-' minus
      cases wrong
    rw [shown, readPlain_number first, readNumber_plain unsigned,
      readUnsigned_natChars _ _ short.bound ends, if_neg Bool.false_ne_true, value]

end BaseGateway.Json
