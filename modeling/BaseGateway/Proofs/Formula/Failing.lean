import BaseGateway.Formula.Choice
import BaseGateway.Formula.Range
import BaseGateway.Proofs.Decimal.Finite
import BaseGateway.Proofs.Run

/-!
# Why a formula cannot be built

Each of the builders is told by how it answers: where it gives a formula, which faults stop it, and
that anything else is the refusal of an argument (`Answers`). Options and dates meet no fault at
all. A bound meets one exactly where it is an integer beyond the range of floats, and a label of an
age bucket where it has such a bound or one with too many digits (`Formula.builders_outcome`).

* steps that answer make a computation that does (`Answers.bind`), also where they write to the
  journal (`Answers.run_bind`);
* a label is told by the digits that its bounds begin with (`AgeBucket.parts`,
  `AgeBucket.digits`), and the fault of a list of labels is that of the first label that has one
  (`AgeBucket.fault?`, `overlappingLabels_answers`);
* each builder by itself is told by `Formula.ofOptions_answers`, `Formula.ofDates_answers`,
  `Formula.ofNumbers_answers` and `Formula.ofAges_answers`.
-/

namespace BaseGateway

open Decimal

/-- An argument is refused. -/
def Refusal.IsInvalid : Refusal → Prop
  | .invalid .. | .unsafeName _ => True
  | _ => False

/-- Exactly where `P` holds there is a result, and exactly the faults in `F` stop the computation.
Anything else that it gives is the refusal of an argument. -/
structure Answers {α : Type} (P : Prop) (F : Fault → Prop) (x : Except Failure α) : Prop where
  succeeds : (∃ a, x = .ok a) ↔ P
  faults : ∀ f, x = .error (.fault f) ↔ F f
  refuses : ∀ r, x = .error (.refused r) → r.IsInvalid

namespace Answers

variable {α β : Type} {P Q : Prop} {F G : Fault → Prop}

theorem congr {x : Except Failure α} (h : Answers P F x) (results : P ↔ Q)
    (faults : ∀ f, F f ↔ G f) : Answers Q G x :=
  ⟨h.succeeds.trans results, fun f => (h.faults f).trans (faults f), h.refuses⟩

theorem ok (a : α) : Answers True (fun _ => False) (.ok a) :=
  ⟨iff_of_true ⟨a, rfl⟩ trivial, fun _ => iff_of_false nofun not_false, nofun⟩

theorem fault (f : Fault) : Answers (α := α) False (· = f) (.error (.fault f)) where
  succeeds := iff_of_false nofun not_false
  faults g := by simp [eq_comm]
  refuses := nofun

theorem refused {r : Refusal} (h : r.IsInvalid) :
    Answers (α := α) False (fun _ => False) (.error (.refused r)) where
  succeeds := iff_of_false nofun not_false
  faults _ := iff_of_false nofun not_false
  refuses _ same := Failure.refused.inj (Except.error.inj same) ▸ h

/-- The second of two steps answers where the first one gives a result. -/
theorem bind {x : Except Failure α} {next : α → Except Failure β} (first : Answers P F x)
    (second : ∀ a, Answers Q G (next a)) :
    Answers (P ∧ Q) (fun f => F f ∨ P ∧ G f) (x >>= next) := by
  cases x with
  | ok a =>
    have given : P := first.succeeds.mp ⟨a, rfl⟩
    have sound : ∀ f, ¬F f := fun f h => nomatch (first.faults f).mpr h
    exact (second a).congr (by simp [given]) (by simp [given, sound])
  | error e =>
    have stopped : ¬P := fun h => nomatch first.succeeds.mpr h
    change Answers _ _ (.error e)
    refine ⟨iff_of_false nofun fun both => stopped both.1, fun f => ?_,
      fun r same => first.refuses r ?_⟩
    · simpa [stopped] using first.faults f
    · simpa using same

/-- As `bind`, for steps that leave a state behind. -/
theorem run_bind {σ : Type} {x : ExceptT Failure (StateM σ) α}
    {next : α → ExceptT Failure (StateM σ) β} (first : ∀ s, Answers P F (x.run.run s).1)
    (second : ∀ a s, Answers Q G ((next a).run.run s).1) (s : σ) :
    Answers (P ∧ Q) (fun f => F f ∨ P ∧ G f) ((x >>= next).run.run s).1 := by
  have begun := first s
  rw [BaseGateway.run_bind]
  rcases ran : x.run.run s with ⟨e | a, s'⟩
  · rw [ran] at begun
    exact begun.bind fun a => second a s'
  · rw [ran] at begun
    exact begun.bind fun a => second a s'

theorem run_pure {σ : Type} (a : α) (s : σ) :
    Answers True (fun _ => False) ((pure a : ExceptT Failure (StateM σ) α).run.run s).1 :=
  .ok a

theorem run_ofExcept {x : Except Failure α} (h : Answers P F x) (j : Journal) :
    Answers P F ((Logged.ofExcept x).run.run j).1 := h

end Answers

/-! ## Names and bounds -/

/-- A value names a field. -/
def Value.NamesField (v : Value) : Prop := ∃ name, FieldName.ofValue v = .ok name

theorem FieldName.ofValue_answers (v : Value) :
    Answers v.NamesField (fun _ => False) (Except.orRefused (FieldName.ofValue v)) := by
  unfold Value.NamesField
  cases named : FieldName.ofValue v with
  | ok name => exact (Answers.ok name).congr (by simp) (by simp)
  | error r =>
    have invalid : r.IsInvalid := by
      unfold FieldName.ofValue at named
      split at named
      · unfold FieldName.ofText at named
        split at named
        · exact Except.error.inj named ▸ trivial
        · split at named
          · exact Except.error.inj named ▸ trivial
          · cases named
      · exact Except.error.inj named ▸ trivial
    exact (Answers.refused invalid).congr (by simp) (by simp)

namespace Value

/-- A finite number within the range of floats. -/
def IsFiniteNumber : Value → Prop
  | .int n => n.natAbs < beyondDoubles
  | .float x => x.isFinite = true
  | _ => False

/-- An integer beyond the range of floats. -/
def IsBeyondFloats : Value → Prop
  | .int n => beyondDoubles ≤ n.natAbs
  | _ => False

end Value

theorem requireFinite_answers (v : Value) (role : String) :
    Answers v.IsFiniteNumber (fun f => f = .tooLargeForFloat ∧ v.IsBeyondFloats)
      (requireFinite v role) := by
  unfold requireFinite
  dsimp only
  split
  · next n =>
    split
    · next near =>
      have within : ¬beyondDoubles ≤ n.natAbs := Nat.not_le_of_lt near
      exact (Answers.ok _).congr (iff_of_true trivial near) (by simp [Value.IsBeyondFloats, within])
    · next far =>
      have beyond : beyondDoubles ≤ n.natAbs := Nat.le_of_not_lt far
      exact (Answers.fault _).congr (iff_of_false not_false far)
        (by simp [Value.IsBeyondFloats, beyond])
  · next x =>
    split
    · next finite =>
      exact (Answers.ok _).congr (iff_of_true trivial finite) (by simp [Value.IsBeyondFloats])
    · next other =>
      exact (Answers.refused (r := .invalidInput _) trivial).congr (iff_of_false not_false other)
        (by simp [Value.IsBeyondFloats])
  · next noInt noFloat =>
    have noNumber : ¬v.IsFiniteNumber := by
      intro finite
      cases v with
      | int n => exact noInt n rfl
      | float x => exact noFloat x rfl
      | _ => exact finite
    have noOverflow (f : Fault) : ¬(f = .tooLargeForFloat ∧ v.IsBeyondFloats) := by
      rintro ⟨-, beyond⟩
      cases v with
      | int n => exact noInt n rfl
      | _ => exact beyond
    exact (Answers.refused (r := .invalidInput _) trivial).congr (iff_of_false not_false noNumber)
      fun f => iff_of_false not_false (noOverflow f)

namespace Formula

/-- A bound of a range of numbers: a finite number, or nothing. -/
def IsNumberBound (v : Value) : Prop := v.isNull = true ∨ v.IsFiniteNumber

theorem bound_answers (name : FieldName) (relation : Relation) (role : String) (v : Value) :
    Answers (IsNumberBound v)
      (fun f => f = .tooLargeForFloat ∧ v.IsBeyondFloats) (bound name relation role v) := by
  unfold bound
  split
  · next null =>
    have noInt : ¬v.IsBeyondFloats := by
      cases v with
      | null => exact not_false
      | _ => cases null
    exact (Answers.ok _).congr (iff_of_true trivial (.inl null)) (by simp [noInt])
  · next given =>
    refine ((requireFinite_answers v role).bind fun n => .ok _).congr ?_ ?_
    · simp [IsNumberBound, given]
    · simp

/-- A bound of a range of dates: a date, or nothing. -/
def IsDateBound (v : Value) : Prop :=
  v.isGiven = false ∨ ∃ s, v = .text s ∧ isIsoDate s.toList = true

theorem dateBound_answers (name : FieldName) (function role : String) (v : Value) :
    Answers (IsDateBound v) (fun _ => False)
      (Except.orRefused (dateBound name function role v)) := by
  unfold dateBound IsDateBound
  dsimp only
  split
  · next none =>
    exact (Answers.ok _).congr (iff_of_true trivial (.inl (by simpa using none))) (by simp)
  · next given =>
    rw [Bool.not_eq_true, Bool.not_eq_false'] at given
    split
    · next s =>
      split
      · next date => exact (Answers.ok _).congr (by simp [date]) (by simp)
      · next other =>
        exact (Answers.refused (r := .invalidInput _) trivial).congr (by simp [given, other])
          (by simp)
    · next noText =>
      refine (Answers.refused (r := .invalidInput _) trivial).congr (iff_of_false not_false ?_)
        (by simp)
      rintro (none | ⟨s, rfl, _⟩)
      · rw [given] at none
        cases none
      · exact noText s rfl

end Formula

/-! ## Labels of age buckets -/

/-- The last age, where there is one and the label tells it. -/
def Ceiling.last? : Ceiling → Option Int
  | .unbounded => none
  | .last age => age

namespace AgeBucket

/-- The parts of a label that its bounds are read from, the lower one first. -/
def parts (label : String) : List (List Char) :=
  if label.toList.contains '+' then [label.toList.erase '+']
  else (Text.splitChars '-' label.toList).take 2

/-- The digits that a part begins with, behind blanks and a sign. -/
def digits (part : List Char) : List Char :=
  (splitSign (part.dropWhile Text.isAsciiBlank)).2.takeWhile Char.isDigit

/-- The fault that a label gives: it has a bound with too many digits, or else it has a lower bound
and one of its bounds is beyond the range of floats. -/
def fault? (label : String) : Option Fault :=
  match (parts label).find? fun part => maxDigits < (digits part).length with
  | some part => some (.tooManyDigitsIn (digits part).length)
  | none =>
    if (parts label).head?.any (fun part => !(digits part).isEmpty) &&
        (parts label).any (fun part => beyondDoubles ≤ digitsValue (digits part)) then
      some .tooLargeForFloat
    else none

/-- The absolute value of a bound, nought where there is none. -/
def magnitude (bound : Option Int) : Nat := bound.elim 0 Int.natAbs

theorem magnitude_none_lt : magnitude none < beyondDoubles :=
  Nat.zero_lt_of_lt one_lt_beyondDoubles

section

variable {part : List Char} {bound : Option Int}

theorem leadingInt?_long (long : maxDigits < (digits part).length) :
    leadingInt? part = .error (.tooManyDigitsIn (digits part).length) := by
  have some : (digits part).isEmpty = false := by
    rw [List.isEmpty_eq_false_iff, ← List.length_pos_iff]
    omega
  unfold leadingInt?
  dsimp only
  rw [← digits, some, if_neg Bool.false_ne_true, if_pos long]

theorem leadingInt?_short (short : ¬maxDigits < (digits part).length) :
    ∃ bound, leadingInt? part = .ok bound ∧ bound.isNone = (digits part).isEmpty ∧
      magnitude bound = digitsValue (digits part) := by
  unfold leadingInt?
  dsimp only
  rw [← digits]
  cases found : (digits part).isEmpty with
  | true =>
    rw [List.isEmpty_iff] at found
    exact ⟨none, rfl, rfl, by rw [found]; rfl⟩
  | false =>
    rw [if_neg Bool.false_ne_true, if_neg short]
    refine ⟨_, rfl, rfl, ?_⟩
    unfold magnitude
    rw [Option.elim_some]
    split <;> simp

theorem isMissing_eq (bound : Option Int) : isMissing bound =
    if beyondDoubles ≤ magnitude bound then .error .tooLargeForFloat else .ok bound.isNone := by
  cases bound with
  | none =>
    rw [if_neg (Nat.not_le_of_lt magnitude_none_lt)]
    rfl
  | some n =>
    unfold isMissing magnitude
    dsimp only
    rw [Option.elim_some]
    split
    · next near =>
      rw [if_neg (Nat.not_le_of_lt near)]
      rfl
    · next far => rw [if_pos (Nat.le_of_not_lt far)]

end

/-- A label has one part with a bound, or two. -/
theorem parts_cases (label : String) :
    (∃ part ceiling, parts label = [part] ∧ ceiling.last? = none ∧
      ofLabel label = (do return ⟨label, ← leadingInt? part, ceiling⟩)) ∨
    ∃ low high, parts label = [low, high] ∧
      ofLabel label = (do return ⟨label, ← leadingInt? low, .last (← leadingInt? high)⟩) := by
  unfold parts ofLabel
  dsimp only
  split
  · exact .inl ⟨_, .unbounded, rfl, rfl, rfl⟩
  · by_cases hyphen : '-' ∈ label.toList
    · obtain ⟨low, behind, split, apart⟩ := List.eq_append_cons_of_mem hyphen
      obtain ⟨high, rest, pieces⟩ := List.exists_cons_of_ne_nil (Text.splitChars_ne_nil '-' behind)
      rw [split, Text.splitChars_append apart, pieces]
      exact .inr ⟨low, high, rfl, rfl⟩
    · -- The only piece is the whole label, and there is none for the ceiling.
      rw [Text.splitChars_of_not_mem hyphen]
      exact .inl ⟨label.toList, .last none, rfl, rfl, rfl⟩

/-- Checking a bucket that has a floor fails where a bound is beyond the range of floats. -/
theorem isMalformed_eq (label : String) (floor : Option Int) (ceiling : Ceiling) :
    ∃ malformed, isMalformed ⟨label, floor, ceiling⟩ =
      if floor.isNone = false ∧
          (beyondDoubles ≤ magnitude floor ∨ beyondDoubles ≤ magnitude ceiling.last?) then
        .error .tooLargeForFloat
      else .ok malformed := by
  have within := Nat.not_le_of_lt magnitude_none_lt
  unfold isMalformed Ceiling.last?
  dsimp only
  rw [isMissing_eq]
  cases floor with
  | none =>
    -- Without a floor the ceiling is not looked at.
    rw [if_neg within]
    exact ⟨true, rfl⟩
  | some n =>
    by_cases low : beyondDoubles ≤ magnitude (some n)
    · refine ⟨true, ?_⟩
      rw [if_pos low, if_pos ⟨rfl, .inl low⟩]
      rfl
    · rw [if_neg low]
      cases ceiling with
      | unbounded => exact ⟨false, by simp [low, within, bind, Except.bind, pure, Except.pure]⟩
      | last age => exact ⟨age.isNone, by simp [low, bind, Except.bind, isMissing_eq]⟩

/-- A label whose bounds are read and checked gives its fault, or passes. -/
theorem isMalformed_ofLabel (label : String) :
    ∃ malformed, (do (← ofLabel label).isMalformed) =
      match fault? label with
      | some f => .error f
      | none => .ok malformed := by
  have within := Nat.not_le_of_lt magnitude_none_lt
  rcases parts_cases label with ⟨part, ceiling, parted, noLast, read⟩ | ⟨low, high, parted, read⟩
  · by_cases long : maxDigits < (digits part).length
    · exact ⟨true, by simp [fault?, parted, read, leadingInt?_long, long, bind, Except.bind]⟩
    · obtain ⟨floor, first, missing, value⟩ := leadingInt?_short long
      obtain ⟨malformed, checked⟩ := isMalformed_eq label floor ceiling
      have faulty : fault? label = if floor.isNone = false ∧
          (beyondDoubles ≤ magnitude floor ∨ beyondDoubles ≤ magnitude ceiling.last?) then
            some .tooLargeForFloat else none := by
        simp [fault?, parted, long, missing, value, noLast, within]
      refine ⟨malformed, ?_⟩
      rw [read, first, faulty]
      refine checked.trans ?_
      split <;> rfl
  · by_cases long : maxDigits < (digits low).length
    · exact ⟨true, by simp [fault?, parted, read, leadingInt?_long, long, bind, Except.bind]⟩
    · obtain ⟨floor, first, missing, value⟩ := leadingInt?_short long
      by_cases long' : maxDigits < (digits high).length
      · exact ⟨true, by
          simp [fault?, parted, read, first, leadingInt?_long, long, long', bind, Except.bind]⟩
      · obtain ⟨age, second, -, value'⟩ := leadingInt?_short long'
        obtain ⟨malformed, checked⟩ := isMalformed_eq label floor (.last age)
        have faulty : fault? label = if floor.isNone = false ∧
            (beyondDoubles ≤ magnitude floor ∨ beyondDoubles ≤ magnitude (Ceiling.last age).last?)
              then some .tooLargeForFloat else none := by
          simp [fault?, parted, long, long', missing, value, Ceiling.last?, value']
        refine ⟨malformed, ?_⟩
        rw [read, first, second, faulty]
        refine checked.trans ?_
        split <;> rfl

end AgeBucket

/-- Looking for labels fails with the fault of the first label that has one. -/
theorem overlappingLabels_answers (lowest highest : Number) (labels : List String) (j : Journal) :
    Answers (labels.findSome? AgeBucket.fault? = none)
      (labels.findSome? AgeBucket.fault? = some ·)
      ((overlappingLabels lowest highest labels).run.run j).1 := by
  induction labels generalizing j with
  | nil => exact (Answers.run_pure [] j).congr (by simp) (by simp)
  | cons label rest ih =>
    obtain ⟨malformed, checked⟩ := AgeBucket.isMalformed_ofLabel label
    unfold overlappingLabels
    rw [run_bind, Logged.run_ofFault, List.findSome?_cons]
    cases read : AgeBucket.ofLabel label with
    | error f =>
      rw [read] at checked
      cases faulty : AgeBucket.fault? label with
      | none =>
        rw [faulty] at checked
        cases checked
      | some g =>
        rw [faulty] at checked
        obtain rfl := Except.error.inj checked
        exact (Answers.fault f).congr (by simp) (by simp [eq_comm])
    | ok bucket =>
      rw [read] at checked
      change bucket.isMalformed = _ at checked
      rw [orFault_ok]
      dsimp only
      rw [run_bind, Logged.run_ofFault, checked]
      cases AgeBucket.fault? label with
      | some f => exact (Answers.fault f).congr (by simp) (by simp [eq_comm])
      | none =>
        dsimp only
        rw [orFault_ok]
        dsimp only
        split
        · exact ih _
        · exact (Answers.run_bind ih (fun found => .run_pure _) j).congr (by simp) (by simp)

/-- The fault of labels: that of the first text that has one, or that of what is no text. -/
def AgeLabels.fault? (labels : AgeLabels) : Option Fault :=
  (labels.texts.findSome? AgeBucket.fault?).or labels.flaw

/-- As `overlappingLabels_answers`, where something else than a text may stand among the labels. -/
theorem AgeLabels.overlapping_answers (labels : AgeLabels) (lowest highest : Number)
    (j : Journal) : Answers (labels.fault? = none) (labels.fault? = some ·)
      ((labels.overlapping lowest highest).run.run j).1 := by
  have texts := overlappingLabels_answers lowest highest labels.texts
  unfold overlapping fault?
  cases labels.flaw with
  | none => exact (Answers.run_bind texts (fun found => .run_pure _) j).congr (by simp) (by simp)
  | some f =>
    refine (Answers.run_bind texts (fun found s => .fault f) j).congr (by simp) fun g => ?_
    cases labels.texts.findSome? AgeBucket.fault? <;> simp [eq_comm]

/-! ## The builders -/

namespace Formula

variable (field lowest highest first last : Value)

/-- The first bound that does not pass is an integer beyond the range of floats. -/
def Overflows (Passes : Value → Prop) : Prop :=
  lowest.IsBeyondFloats ∨ Passes lowest ∧ highest.IsBeyondFloats

theorem ofOptions_answers (m : Match) (values options : List String) (fuzzy : Bool) :
    Answers field.NamesField (fun _ => False)
      (Except.orRefused (ofOptions m field values options fuzzy)) := by
  unfold ofOptions
  rw [orRefused_bind]
  exact ((FieldName.ofValue_answers field).bind fun name => .ok _).congr (by simp) (by simp)

theorem ofDates_answers :
    Answers (field.NamesField ∧ IsDateBound first ∧ IsDateBound last) (fun _ => False)
      (Except.orRefused (ofDates field first last)) := by
  unfold ofDates
  simp only [orRefused_bind]
  refine ((FieldName.ofValue_answers field).bind fun name =>
    (dateBound_answers name _ _ first).bind fun low =>
      (dateBound_answers name _ _ last).bind fun high => .ok _).congr ?_ ?_
  · simp
  · simp

theorem ofNumbers_answers :
    Answers (field.NamesField ∧ IsNumberBound lowest ∧ IsNumberBound highest)
      (fun f => field.NamesField ∧ f = .tooLargeForFloat ∧ Overflows lowest highest IsNumberBound)
      (ofNumbers field lowest highest) := by
  refine ((FieldName.ofValue_answers field).bind fun name =>
    (bound_answers name _ _ lowest).bind fun low =>
      (bound_answers name _ _ highest).bind fun high => .ok _).congr ?_ fun f => ?_
  · simp
  · simp only [Overflows]
    tauto

theorem ofAges_answers (labels : AgeLabels) (j : Journal) :
    Answers
      (field.NamesField ∧ lowest.IsFiniteNumber ∧ highest.IsFiniteNumber ∧ labels.fault? = none)
      (fun f => field.NamesField ∧
        (f = .tooLargeForFloat ∧ Overflows lowest highest Value.IsFiniteNumber ∨
          lowest.IsFiniteNumber ∧ highest.IsFiniteNumber ∧ labels.fault? = some f))
      ((ofAges field lowest highest labels).run.run j).1 := by
  unfold ofAges
  refine (Answers.run_bind (Answers.run_ofExcept (FieldName.ofValue_answers field)) (fun name =>
    Answers.run_bind (Answers.run_ofExcept (requireFinite_answers lowest _)) fun low =>
      Answers.run_bind (Answers.run_ofExcept (requireFinite_answers highest _)) fun high =>
        Answers.run_bind (labels.overlapping_answers low high) fun found => .run_pure _)
          j).congr ?_ fun f => ?_
  · simp
  · simp only [Overflows]
    tauto

/-- Each of the builders answers: with a formula exactly for arguments in order, and otherwise with
the refusal of an argument, except that integers beyond the range of floats and labels with too many
digits are met with a fault. Of the arguments at fault the first one counts. -/
theorem builders_outcome (m : Match) (labels values options : List String) (fuzzy : Bool)
    (j : Journal) :
    Answers field.NamesField (fun _ => False)
        (Except.orRefused (ofOptions m field values options fuzzy)) ∧
      Answers (field.NamesField ∧ IsDateBound first ∧ IsDateBound last) (fun _ => False)
        (Except.orRefused (ofDates field first last)) ∧
      Answers (field.NamesField ∧ IsNumberBound lowest ∧ IsNumberBound highest)
        (fun f => field.NamesField ∧ f = .tooLargeForFloat ∧ Overflows lowest highest IsNumberBound)
        (ofNumbers field lowest highest) ∧
      Answers
        (field.NamesField ∧ lowest.IsFiniteNumber ∧ highest.IsFiniteNumber ∧
          labels.findSome? AgeBucket.fault? = none)
        (fun f => field.NamesField ∧
          (f = .tooLargeForFloat ∧ Overflows lowest highest Value.IsFiniteNumber ∨
            lowest.IsFiniteNumber ∧ highest.IsFiniteNumber ∧
              labels.findSome? AgeBucket.fault? = some f))
        ((ofAges field lowest highest ⟨labels, none⟩).run.run j).1 :=
  ⟨ofOptions_answers field m values options fuzzy, ofDates_answers field first last,
    ofNumbers_answers field lowest highest, by
      simpa [AgeLabels.fault?] using ofAges_answers field lowest highest ⟨labels, none⟩ j⟩

/-- An integer of 401 digits is met with a fault. -/
theorem ofNumbers_beyond : ofNumbers (.text "A") (.int (10 ^ 400 : Nat)) .null =
    .error (.fault .tooLargeForFloat) := by
  have beyond : beyondDoubles ≤ ((10 ^ 400 : Nat) : Int).natAbs := by decide +kernel
  exact ((ofNumbers_answers _ _ _).faults _).mpr ⟨⟨_, rfl⟩, rfl, .inl beyond⟩

end Formula

end BaseGateway
