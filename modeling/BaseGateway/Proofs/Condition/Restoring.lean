import BaseGateway.Proofs.Intake.Restoring
import BaseGateway.Proofs.Request

/-!
# Conditions that are read again

A condition whose parts were read (`Condition.Restored`) is read again wherever each of its
arguments is found under its label (`Condition.Restored.read_again`): from its arguments as they are
written out in full, and from its echo, which leaves out what is null and spells the bounds of a
number as `min` and `max`. Every condition that was read is such a condition
(`Condition.read_restored`), so that the echo of conditions is read as the conditions
(`readConditions_echo`).
-/

namespace BaseGateway

open Checked Intake

theorem Value.ofText?_eq (o : Option String) : ofText? o = (o.map text).getD .null := by
  cases o <;> rfl

theorem Intake.age_int {n : Int} (low : 0 ≤ n) (high : n ≤ 150) : age (.int n) = .valid n := by
  unfold age integerIn integer
  simp only [Checked.check]
  rw [if_neg (by omega), if_neg (by omega)]

namespace Condition

/-- A condition whose parts were read. -/
inductive Restored : Condition → Prop where
  | ageRange {c : AgeCondition} (years : c.ages.InYears)
    (field : Intake.fieldName (.text c.fieldName) = .valid c.fieldName)
    (options : ∀ labels ∈ c.availableOptions, ageLabels (.ofTexts labels) = .valid labels) :
    Restored (.ageRange c)
  | multipleSelect {c : SelectCondition}
    (field : Intake.fieldName (.text c.fieldName) = .valid c.fieldName)
    (values : optionList 1 (.ofTexts c.values) = .valid c.values)
    (options : ∀ options ∈ c.availableOptions, optionList 0 (.ofTexts options) = .valid options) :
    Restored (.multipleSelect c)
  | numberRange {c : NumberCondition}
    (field : Intake.fieldName (.text c.fieldName) = .valid c.fieldName)
    (lowest : ∀ x ∈ c.lowest, finiteNumber (.float x) = .valid x)
    (highest : ∀ x ∈ c.highest, finiteNumber (.float x) = .valid x) :
    Restored (.numberRange c)
  | dateRange {c : DateCondition}
    (field : Intake.fieldName (.text c.fieldName) = .valid c.fieldName)
    (first : ∀ date ∈ c.startDate, shortText (.text date) = .valid date)
    (last : ∀ date ∈ c.endDate, shortText (.text date) = .valid date) :
    Restored (.dateRange c)
  | customFormula {own : String} (formula : formulaText (.text own) = .valid own) :
    Restored (.customFormula own)

section Reading

variable (entries : Entries)

/-- The name of the field that a condition is about. -/
theorem field_restored : (required entries .fieldName fieldName).Every fun s =>
    fieldName (.text s) = .valid s :=
  required_any .fieldName (name_restores "Field")

theorem readAgeRange_restored : (readAgeRange entries).Every Restored := by
  have labels : Restores ageLabels Value.ofTexts := texts_restores text_restores 0 Limits.ageRanges
  refine withAges_every (Every.seq (Every.seq (Every.map (.any _) ?_) (field_restored entries))
    (given_restores labels entries .availableOptions))
  intro _ _ field named options known ages years
  exact .ageRange years named known

theorem readMultipleSelect_restored : (readMultipleSelect entries).Every Restored := by
  have options (low : Nat) : Restores (optionList low) Value.ofTexts :=
    texts_restores (textUpTo_restores _) low Limits.values
  refine .seq_any _ <| Every.seq (Every.seq (.seq_any _ <| Every.seq (Every.map (.any _) ?_)
    (field_restored entries)) (required_any .values (options 1)))
    (given_restores (options 0) entries .availableOptions)
  intro _ _ field named how values listed options known fuzzy
  exact .multipleSelect named listed known

theorem readNumberRange_restored : (readNumberRange entries).Every Restored := by
  have bound := given_restores finiteNumber_restores entries
  refine Every.seq (Every.seq (Every.seq (Every.map (.any _) ?_) (field_restored entries))
    (bound .minValue)) (bound .maxValue)
  intro _ _ field named low lowest high highest
  exact .numberRange named lowest highest

theorem readDateRange_restored : (readDateRange entries).Every Restored := by
  have date := given_restores (textUpTo_restores Limits.textLength) entries
  refine Every.seq (Every.seq (Every.seq (Every.map (.any _) ?_) (field_restored entries))
    (date .startDate)) (date .endDate)
  intro _ _ field named first start last stop
  exact .dateRange named start stop

theorem readCustomFormula_restored : (readCustomFormula entries).Every Restored := by
  refine Every.seq (Every.map (.any _) ?_)
    (required_any .formula (textUpTo_restores Limits.formulaLength))
  exact fun _ _ formula read => .customFormula read

theorem kinds_restored {name : String} {readKind : Entries → Checked Condition}
    (mem : (name, readKind) ∈ kinds) : (readKind entries).Every Restored := by
  simp only [kinds, List.mem_cons, Prod.mk.injEq, List.not_mem_nil, or_false] at mem
  rcases mem with ⟨_, rfl⟩ | ⟨_, rfl⟩ | ⟨_, rfl⟩ | ⟨_, rfl⟩ | ⟨_, rfl⟩
  · exact readAgeRange_restored entries
  · exact readMultipleSelect_restored entries
  · exact readNumberRange_restored entries
  · exact readDateRange_restored entries
  · exact readCustomFormula_restored entries

end Reading

/-- Whatever a condition is read from, its parts were read. -/
theorem read_restored (v : Value) : (read v).Every Restored := by
  unfold read
  split
  · split
    · exact .issue _
    · split
      · next name readKind found =>
        obtain ⟨s, _, inKinds⟩ := Option.bind_eq_some_iff.mp found
        exact (kinds_restored _ (List.mem_of_find?_eq_some inKinds)).under name
      · exact .issue _
  · exact .issue _

section Again

variable {entries : Entries}

/-- A condition is read as its kind is. -/
theorem read_kind {k : Condition} {kind : String} {readKind : Entries → Checked Condition}
    (known : (kinds.find? fun entry => entry.1 == kind) = some (kind, readKind))
    (held : Label.type.Holds (.text kind) entries) (again : readKind entries = .valid k) :
    read (.dictionary entries) = .valid k := by
  have tagged : entries.get? "type" = some (.text kind) := held.get?_word rfl
  unfold read
  dsimp only
  rw [tagged]
  dsimp only [Value.asText?, Option.bind_some]
  rw [known]
  dsimp only
  rw [again]
  rfl

theorem kind_again (name : String) : Intake.kind name (.text name) = .valid () := by
  simp [Intake.kind, oneOf, Value.asText?]

theorem readAgeRange_again {c : AgeCondition} (h : (ageRange c).Restored)
    (held : ∀ arg ∈ (ageRange c).arguments, arg.1.Holds arg.2 entries) :
    read (.dictionary entries) = .valid (.ageRange c) := by
  cases h with
  | ageRange years field options =>
    obtain ⟨low, held⟩ := List.forall_mem_cons.mp held
    obtain ⟨high, held⟩ := List.forall_mem_cons.mp held
    obtain ⟨kind, held⟩ := List.forall_mem_cons.mp held
    obtain ⟨name, held⟩ := List.forall_mem_cons.mp held
    obtain ⟨labels, -⟩ := List.forall_mem_cons.mp held
    have lowest := Int.le_trans c.ages.ordered years.high
    have highest := Int.le_trans years.low c.ages.ordered
    apply read_kind rfl kind
    unfold readAgeRange withAges
    rw [low.required rfl (age_int years.low lowest), high.required rfl (age_int highest years.high),
      kind.required rfl (kind_again _), name.required rfl field,
      labels.given (optional_again (fun _ => rfl) options)]
    have bounds : AgeBounds.of c.ages.minAge c.ages.maxAge = .valid c.ages := dif_pos c.ages.ordered
    have built : (AgeBounds.of c.ages.minAge c.ages.maxAge).map (fun ages =>
        Condition.ageRange ⟨ages, c.fieldName, c.availableOptions⟩) = .valid (.ageRange c) := by
      rw [bounds]
      rfl
    exact built

theorem readMultipleSelect_again {c : SelectCondition} (h : (multipleSelect c).Restored)
    (held : ∀ arg ∈ (multipleSelect c).arguments, arg.1.Holds arg.2 entries) :
    read (.dictionary entries) = .valid (.multipleSelect c) := by
  cases h with
  | multipleSelect field values options =>
    obtain ⟨kind, held⟩ := List.forall_mem_cons.mp held
    obtain ⟨name, held⟩ := List.forall_mem_cons.mp held
    obtain ⟨how, held⟩ := List.forall_mem_cons.mp held
    obtain ⟨wanted, held⟩ := List.forall_mem_cons.mp held
    obtain ⟨known, held⟩ := List.forall_mem_cons.mp held
    obtain ⟨fuzzy, -⟩ := List.forall_mem_cons.mp held
    have matched : oneOf Match.names (.text c.matchType.name) = .valid c.matchType := by
      cases c.matchType <;> rfl
    apply read_kind rfl kind
    unfold readMultipleSelect
    rw [kind.required rfl (kind_again _), name.required rfl field, how.required rfl matched,
      wanted.required rfl values, known.given (optional_again (fun _ => rfl) options),
      fuzzy.withDefault rfl (truth_again _)]
    rfl

theorem readNumberRange_again {c : NumberCondition} (h : (numberRange c).Restored)
    (held : ∀ arg ∈ (numberRange c).arguments, arg.1.Holds arg.2 entries) :
    read (.dictionary entries) = .valid (.numberRange c) := by
  cases h with
  | numberRange field lowest highest =>
    obtain ⟨kind, held⟩ := List.forall_mem_cons.mp held
    obtain ⟨name, held⟩ := List.forall_mem_cons.mp held
    obtain ⟨low, held⟩ := List.forall_mem_cons.mp held
    obtain ⟨high, -⟩ := List.forall_mem_cons.mp held
    apply read_kind rfl kind
    unfold readNumberRange
    rw [kind.required rfl (kind_again _), name.required rfl field,
      low.given (optional_again (fun _ => rfl) lowest),
      high.given (optional_again (fun _ => rfl) highest)]
    rfl

theorem readDateRange_again {c : DateCondition} (h : (dateRange c).Restored)
    (held : ∀ arg ∈ (dateRange c).arguments, arg.1.Holds arg.2 entries) :
    read (.dictionary entries) = .valid (.dateRange c) := by
  cases h with
  | dateRange field first last =>
    obtain ⟨kind, held⟩ := List.forall_mem_cons.mp held
    obtain ⟨name, held⟩ := List.forall_mem_cons.mp held
    obtain ⟨start, held⟩ := List.forall_mem_cons.mp held
    obtain ⟨stop, -⟩ := List.forall_mem_cons.mp held
    apply read_kind rfl kind
    unfold readDateRange
    rw [kind.required rfl (kind_again _), name.required rfl field,
      start.given (Value.ofText?_eq _ ▸ optional_again (fun _ => rfl) first),
      stop.given (Value.ofText?_eq _ ▸ optional_again (fun _ => rfl) last)]
    rfl

theorem readCustomFormula_again {own : String} (h : (customFormula own).Restored)
    (held : ∀ arg ∈ (customFormula own).arguments, arg.1.Holds arg.2 entries) :
    read (.dictionary entries) = .valid (.customFormula own) := by
  cases h with
  | customFormula written =>
    obtain ⟨kind, held⟩ := List.forall_mem_cons.mp held
    obtain ⟨formula, -⟩ := List.forall_mem_cons.mp held
    apply read_kind rfl kind
    unfold readCustomFormula
    rw [kind.required rfl (kind_again _), formula.required rfl written]
    rfl

/-- A condition whose parts were read is read again where its arguments are. -/
theorem Restored.read_again {k : Condition} (h : k.Restored)
    (held : ∀ arg ∈ k.arguments, arg.1.Holds arg.2 entries) :
    read (.dictionary entries) = .valid k := by
  cases k with
  | ageRange c => exact readAgeRange_again h held
  | multipleSelect c => exact readMultipleSelect_again h held
  | numberRange c => exact readNumberRange_again h held
  | dateRange c => exact readDateRange_again h held
  | customFormula own => exact readCustomFormula_again h held

end Again

/-- The labels of the arguments of a condition are apart. -/
theorem arguments_apart (k : Condition) : (k.arguments.map Prod.fst).Pairwise Label.Apart := by
  have apart : ∀ labels ∈ [[Label.minAge, .maxAge, .type, .fieldName, .availableOptions],
      [.type, .fieldName, .matchType, .values, .availableOptions, .useFuzzyMatch],
      [.type, .fieldName, .minValue, .maxValue], [.type, .fieldName, .startDate, .endDate],
      [.type, .formula]], labels.Pairwise Label.Apart := by decide
  apply apart
  cases k <;> simp [arguments, AgeBounds.arguments]

theorem Restored.plain_again {k : Condition} (h : k.Restored) :
    read k.arguments.plain = .valid k := by
  rw [Arguments.plain_eq]
  exact h.read_again (Arguments.holds_plain k.arguments_apart)

/-- The echo of a condition is read as the condition. -/
theorem Restored.echo_again {k : Condition} (h : k.Restored) :
    read k.arguments.echo = .valid k := by
  rw [Arguments.echo_eq]
  exact h.read_again (Arguments.holds_echo k.arguments_apart)

/-- A condition on ages whose parts were read. -/
theorem ageRange_again {c : AgeCondition} (years : c.ages.InYears)
    (field : Intake.fieldName (.text c.fieldName) = .valid c.fieldName)
    (options : ∀ labels ∈ c.availableOptions, ageLabels (.ofTexts labels) = .valid labels) :
    read (ageRange c).arguments.plain = .valid (.ageRange c) :=
  (Restored.ageRange years field options).plain_again

theorem multipleSelect_again {c : SelectCondition}
    (field : Intake.fieldName (.text c.fieldName) = .valid c.fieldName)
    (values : optionList 1 (.ofTexts c.values) = .valid c.values)
    (options : ∀ options ∈ c.availableOptions, optionList 0 (.ofTexts options) = .valid options) :
    read (multipleSelect c).arguments.plain = .valid (.multipleSelect c) :=
  (Restored.multipleSelect field values options).plain_again

theorem customFormula_again {own : String} (read' : formulaText (.text own) = .valid own) :
    read (customFormula own).arguments.plain = .valid (.customFormula own) :=
  (Restored.customFormula read').plain_again

end Condition

/-- The echo of conditions, read by itself, is the conditions. -/
theorem readConditions_echo {ks : List Condition} (h : ∀ k ∈ ks, k.Restored) :
    readConditions (.list (ks.map (·.arguments.echo))) = .ok ks := by
  unfold readConditions
  dsimp only
  rw [items_again fun k mem => (h k mem).echo_again]
  rfl

end BaseGateway
