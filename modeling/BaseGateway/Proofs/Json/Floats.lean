import BaseGateway.Proofs.Decimal.Spelling
import BaseGateway.Proofs.Json.Tokens

/-!
# Floats read back

What a float is written as is read back as the same float, where no digit, point or exponent follows
(`readPlain_float`): a finite one digit by digit, and the others by their names.
-/

namespace BaseGateway.Json

open Decimal (Spelling Reading)

section

variable {s : Spelling} {rest : List Char}

theorem wholeDigits_spelling (h : s.IsFloat) (ends : Ends rest) :
    wholeDigits (s.whole ++ (s.behind ++ rest)) = s.whole := by
  have digits := (Decimal.span_digits h.whole.2 (s.behind_stops fun c head => (ends c head).1)).1
  unfold wholeDigits
  split
  · next r begins =>
    refine (h.leading ?_).symm
    rw [← List.head?_append_of_ne_nil _ h.whole.1, begins, List.head?_cons]
  · exact digits

theorem fractionDigits_power (ends : Ends rest) : fractionDigits (s.power ++ rest) = [] := by
  unfold Spelling.power
  cases s.exponent with
  | none => exact ends.fractionDigits
  | some e => rfl

/-- The places and the exponent of a float come apart. -/
theorem fractionDigits_spelling (h : s.IsFloat) (ends : Ends rest) :
    fractionDigits (s.behind ++ rest) = s.places ∧
      behindFraction (s.behind ++ rest) = s.power ++ rest := by
  have digits := (Decimal.span_digits h.places (s.power_stops fun c head => (ends c head).1)).1
  unfold behindFraction Spelling.behind
  cases places : s.places with
  | nil =>
    simp only [List.isEmpty_nil, if_true, List.nil_append, fractionDigits_power ends, and_self]
  | cons c r =>
    have shown : fractionDigits (('.' :: c :: r ++ s.power) ++ rest) = c :: r := by
      rw [places, ← List.append_assoc] at digits
      exact digits
    simp only [List.isEmpty_cons, Bool.false_eq_true, if_false, shown, true_and]
    simp

theorem exponentPart_power (ends : Ends rest) : exponentPart (s.power ++ rest) = s.power := by
  unfold Spelling.power
  cases s.exponent with
  | none => exact ends.exponentPart
  | some e =>
    have run := Decimal.digitRun_exponentDigits e.natAbs
    have digits := (Decimal.span_digits run.2 fun c head => (ends c head).1).1
    have nonempty := List.isEmpty_eq_false_iff.mpr run.1
    rw [Option.elim_some, Decimal.exponentChars_eq]
    by_cases negative : e < 0
    · simp [exponentPart, negative, digits, nonempty]
    · simp [exponentPart, negative, digits, nonempty]

/-- A spelling is read as the float that its text stands for. -/
theorem readUnsigned_spelling (negative : Bool) (left : Nat) {x : Float} (h : s.IsFloat)
    (magnitude : Decimal.readMagnitude? s.chars = some x) (ends : Ends rest) :
    readUnsigned negative left (s.chars ++ rest) =
      .ok (.float (if negative then -x else x), rest) := by
  obtain ⟨fraction, behind⟩ := fractionDigits_spelling h ends
  have nonempty : s.whole.isEmpty = false := List.isEmpty_eq_false_iff.mpr h.whole.1
  have marked : (s.places.isEmpty && s.power.isEmpty) = false := by
    rcases h.marked with places | power
    · rw [List.isEmpty_eq_false_iff.mpr places, Bool.false_and]
    · obtain ⟨e, given⟩ := Option.ne_none_iff_exists'.mp power
      rw [Spelling.power, given, Option.elim_some, Decimal.exponentChars_eq, List.isEmpty_cons,
        Bool.and_false]
  have shown : s.whole ++ placesOf s.places ++ s.power = s.chars := rfl
  unfold readUnsigned
  dsimp only
  rw [s.chars_eq, List.append_assoc, wholeDigits_spelling h ends, List.drop_left, fraction, behind,
    exponentPart_power ends, List.drop_left, nonempty, if_neg Bool.false_ne_true, marked,
    if_neg Bool.false_ne_true, shown, magnitude, Option.getD_some]

/-- A spelling begins with a digit. -/
theorem spelling_head (h : s.IsFloat) : ∃ d t, s.chars = d :: t ∧ d.isDigit = true := by
  obtain ⟨d, t, begins⟩ := List.exists_cons_of_ne_nil h.whole.1
  refine ⟨d, t ++ s.behind, ?_, h.whole.2 d (begins ▸ List.mem_cons_self)⟩
  rw [s.chars_eq, begins, List.cons_append]

/-- A spelling is read behind its sign. -/
theorem readPlain_spelling {x : Float} (negative : Bool) (h : s.IsFloat)
    (magnitude : Decimal.readMagnitude? s.chars = some x) (ends : Ends rest) :
    readPlain ((if negative then ['-'] else []) ++ s.chars ++ rest) =
      .ok (.float (if negative then -x else x), rest) := by
  obtain ⟨d, t, begins, digit⟩ := spelling_head h
  have read := fun left => readUnsigned_spelling negative left h magnitude ends
  rw [begins] at read ⊢
  cases negative with
  | true =>
    change readPlain ('-' :: d :: (t ++ rest)) = _
    rw [readPlain_minus digit, readNumber_minus]
    exact read _
  | false =>
    have first : ∀ c, (d :: t ++ rest).head? = some c → c.isDigit = true := by
      intro c head
      exact Option.some.inj head ▸ digit
    have unsigned : (d :: t ++ rest).head? ≠ some '-' := by
      intro minus
      have wrong := first '-' minus
      cases wrong
    change readPlain (d :: t ++ rest) = _
    rw [readPlain_number first, readNumber_plain unsigned]
    exact read _

end

/-- A float is read back. -/
theorem readPlain_float (x : Float) {rest : List Char} (ends : Ends rest) :
    readPlain (floatChars x ++ rest) = .ok (.float x, rest) := by
  unfold floatChars
  cases reading : Reading.ofFloat x with
  | nan =>
    rw [Decimal.eq_of_nan reading]
    rfl
  | infinite negative =>
    rw [Decimal.eq_of_infinite reading]
    cases negative <;> rfl
  | finite negative b =>
    obtain ⟨s, float, chars, magnitude⟩ := Decimal.exists_spelling_of_finite reading
    have read := readPlain_spelling negative float magnitude ends
    rw [Decimal.signed_ofBits reading] at read
    dsimp only
    rw [Decimal.floatChars, reading]
    dsimp only
    rw [chars]
    exact read

end BaseGateway.Json
