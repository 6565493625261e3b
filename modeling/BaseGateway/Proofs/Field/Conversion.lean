import BaseGateway.Field.Conversion
import BaseGateway.Proofs.Run

/-!
# What becomes of a value

A value that is written to a field is checked against the description of the field and then brought
into the form that its kind asks for. Which form that is, kind by kind, is told by
`FieldKind.Forms`; a value and its form are found valid alike (`fieldProblem?_form`).
-/

namespace BaseGateway

/-- The form that a value takes for a field of a kind. -/
def FieldKind.Forms : FieldKind → Value → Value → Prop
  | .singleSelect, v, w | .email, v, w | .url, v, w | .text, v, w =>
    ∃ s, v.display = .ok s ∧ w = .text s
  | .multipleSelect, .list items, w => w = .list items
  | .multipleSelect, v, w => ∃ s, v.display = .ok s ∧ w = .list [.text s]
  | .date, v, w => w = isoForm v
  | .number, .int n, w => w = .int n
  | .number, .float x, w => w = .float x
  | .number, v, w => ∃ s x, v.display = .ok s ∧ Decimal.readFloat? s = some x ∧ w = .float x
  | .checkbox, v, w => w = .bool (checkboxForm v)
  | .recordLinks, v, w => ∃ ids, v.asItems.mapM linkForm = .ok ids ∧ w = .list ids
  | .attachments, v, w => w = .list (v.asItems.map (wrapText "url"))
  | .collaborators, v, w => w = .list (v.asItems.map (wrapText "id"))
  | .generated, _, _ | .computed, _, _ => False
  | .plain, v, w => w = v

/-- A link by the ID of a record, or by a dictionary that has it. -/
def Value.IsLink (v : Value) : Prop := (∃ s, v = .text s) ∨ ∃ s, v.item "id" = .ok (.text s)

section

variable {v w field : Value} {kind : FieldKind}

theorem given_iff {u : Value} : (Except.ok u : Except Failure Value) = .ok w ↔ w = u := by
  rw [Except.ok.injEq, eq_comm]

/-- A step that may meet a fault, and a value that is made from its result. -/
theorem made_iff {α : Type} {x : Except Fault α} {f : α → Value} :
    (do return f (← Except.orFault x) : Except Failure Value) = .ok w ↔
      ∃ a, x = .ok a ∧ w = f a := by
  cases x with
  | ok a => simp [Except.orFault, Except.mapError, eq_comm]
  | error f => simp [Except.orFault, Except.mapError]

theorem refused_iff {α : Type} {x : Except Fault α} {problem : α → Failure} :
    (do throw (problem (← Except.orFault x)) : Except Failure Value) = .ok w ↔ False := by
  constructor
  · intro formed
    obtain ⟨a, -, formed⟩ := Except.bind_ok formed
    cases formed
  · exact False.elim

theorem numberForm_ok_iff : numberForm v field = .ok w ↔ FieldKind.number.Forms v w := by
  have worded : (∀ n, v ≠ .int n) → (∀ x, v ≠ .float x) →
      (numberForm v field = .ok w ↔
        ∃ s x, v.display = .ok s ∧ Decimal.readFloat? s = some x ∧ w = .float x) := by
    intro noInt noFloat
    unfold numberForm
    split
    · next n => exact absurd rfl (noInt n)
    · next x => exact absurd rfl (noFloat x)
    · constructor
      · intro formed
        obtain ⟨s, shown, formed⟩ := Except.bind_ok formed
        split at formed
        · next x read => exact ⟨s, x, orFault_eq_ok.mp shown, read, given_iff.mp formed⟩
        · obtain ⟨_, _, formed⟩ := Except.bind_ok formed
          obtain ⟨_, _, formed⟩ := Except.bind_ok formed
          cases formed
      · rintro ⟨s, x, shown, read, rfl⟩
        rw [shown, orFault_ok]
        dsimp only [bind, Except.bind]
        rw [read]
        rfl
  cases v with
  | int n => exact given_iff
  | float x => exact given_iff
  | _ => exact worded (by simp) (by simp)

theorem optionsForm_ok_iff (solid : v.isNull = false)
    (described : FieldKind.ofDescription field = .ok (some .multipleSelect)) :
    fieldForm v field = .ok w ↔ FieldKind.multipleSelect.Forms v w := by
  have single : (∀ items, v ≠ .list items) →
      (fieldForm v field = .ok w ↔ ∃ s, v.display = .ok s ∧ w = .list [.text s]) := by
    intro other
    unfold fieldForm
    rw [solid, described, orFault_ok, if_neg Bool.false_ne_true]
    dsimp only [bind, Except.bind]
    split
    · next items => exact absurd rfl (other items)
    · exact made_iff
  cases v with
  | list items =>
    unfold fieldForm
    rw [described]
    exact given_iff
  | _ => exact single (by simp)

theorem fieldForm_ok_iff (solid : v.isNull = false)
    (described : FieldKind.ofDescription field = .ok (some kind)) :
    fieldForm v field = .ok w ↔ kind.Forms v w := by
  by_cases options : kind = .multipleSelect
  · subst options
    exact optionsForm_ok_iff solid described
  · unfold fieldForm
    rw [solid, described]
    cases kind with
    | singleSelect => exact made_iff
    | email => exact made_iff
    | url => exact made_iff
    | text => exact made_iff
    | multipleSelect => exact absurd rfl options
    | date => exact given_iff
    | number => exact numberForm_ok_iff
    | checkbox => exact given_iff
    | recordLinks => exact made_iff
    | attachments => exact given_iff
    | collaborators => exact given_iff
    | generated => exact refused_iff
    | computed => exact refused_iff
    | plain => exact given_iff

/-- The ID in a link is a text exactly where the link leads to one. -/
theorem linkForm_text_iff (formed : linkForm v = .ok w) : (∃ s, w = .text s) ↔ v.IsLink := by
  unfold linkForm at formed
  split at formed
  · next s =>
    obtain rfl := Except.ok.inj formed
    exact ⟨fun _ => .inl ⟨s, rfl⟩, fun _ => ⟨s, rfl⟩⟩
  · next other =>
    constructor
    · rintro ⟨s, rfl⟩
      exact .inr ⟨s, formed⟩
    · rintro (⟨s, rfl⟩ | ⟨s, read⟩)
      · exact absurd rfl (other s)
      · exact ⟨s, Except.ok.inj (formed.symm.trans read)⟩

theorem isNull_isoForm (v : Value) : (isoForm v).isNull = v.isNull := by
  unfold isoForm
  split
  · rfl
  · rfl
  · split <;> rfl
  · rfl

/-- Several options are given as a list. -/
theorem FieldKind.Forms.exists_options (formed : FieldKind.multipleSelect.Forms v w) :
    ∃ items, w = .list items := by
  cases v with
  | list items => exact ⟨items, formed⟩
  | _ =>
    obtain ⟨s, -, same⟩ := formed
    exact ⟨[.text s], same⟩

/-- A number is whole, or it is a float. -/
theorem FieldKind.Forms.exists_number (formed : FieldKind.number.Forms v w) :
    (∃ n, w = .int n) ∨ ∃ x, w = .float x := by
  cases v with
  | int n => exact .inl ⟨n, formed⟩
  | float x => exact .inr ⟨x, formed⟩
  | _ =>
    obtain ⟨s, x, -, -, same⟩ := formed
    exact .inr ⟨x, same⟩

/-- What is given takes a form that is given. -/
theorem FieldKind.Forms.solid (formed : kind.Forms v w) (solid : v.isNull = false) :
    w.isNull = false := by
  cases kind with
  | singleSelect | email | url | text =>
    obtain ⟨s, -, rfl⟩ := formed
    rfl
  | multipleSelect =>
    obtain ⟨items, rfl⟩ := formed.exists_options
    rfl
  | date =>
    obtain rfl : w = isoForm v := formed
    rw [isNull_isoForm, solid]
  | number => rcases formed.exists_number with ⟨n, rfl⟩ | ⟨x, rfl⟩ <;> rfl
  | checkbox =>
    obtain rfl : w = .bool (checkboxForm v) := formed
    rfl
  | recordLinks =>
    obtain ⟨ids, -, rfl⟩ := formed
    rfl
  | attachments | collaborators =>
    obtain rfl : w = .list _ := formed
    rfl
  | generated | computed => exact formed.elim
  | plain =>
    obtain rfl : w = v := formed
    exact solid

/-- Several options are in words what they were before. -/
theorem FieldKind.Forms.display_items (formed : FieldKind.multipleSelect.Forms v w) :
    w.asItems.mapM Value.display = v.asItems.mapM Value.display := by
  have single : ∀ s, v.display = .ok s → v.asItems = [v] → w = .list [.text s] →
      w.asItems.mapM Value.display = v.asItems.mapM Value.display := by
    rintro s shown alone rfl
    rw [alone, Value.asItems, List.mapM_cons, List.mapM_cons, shown]
    rfl
  cases v with
  | list items =>
    obtain rfl : w = .list items := formed
    rfl
  | _ =>
    obtain ⟨s, shown, same⟩ := formed
    exact single s shown rfl same

/-- A value and its form are found valid alike. -/
theorem fieldProblem?_form (solid : v.isNull = false)
    (described : FieldKind.ofDescription field = .ok (some kind)) (formed : kind.Forms v w) :
    fieldProblem? w field = fieldProblem? v field := by
  have solid' := formed.solid solid
  unfold fieldProblem?
  rw [solid, solid', described]
  cases kind with
  | singleSelect | email | url =>
    obtain ⟨s, shown, rfl⟩ := formed
    rw [shown]
    rfl
  | multipleSelect =>
    rw [formed.display_items]
    rfl
  | _ => rfl

/-- The value for one field: as it is without a description of the field, and otherwise a valid
value in its form. -/
theorem convertField_ok_iff {known : Entries} {name : Value} :
    convertField known name v = .ok w ↔
      (Entries.find? known name = none ∧ w = v) ∨
      ∃ field, Entries.find? known name = some field ∧ fieldProblem? v field = .ok none ∧
        fieldForm v field = .ok w := by
  unfold convertField
  cases found : Entries.find? known name with
  | none =>
    simp only [true_and, reduceCtorEq, false_and, exists_false, or_false]
    exact given_iff
  | some field =>
    simp only [reduceCtorEq, false_and, Option.some.injEq, exists_eq_left', false_or]
    constructor
    · intro converted
      obtain ⟨problem, checked, converted⟩ := Except.bind_ok converted
      split at converted
      · cases converted
      · exact ⟨orFault_eq_ok.mp checked, converted⟩
    · rintro ⟨valid, formed⟩
      rw [valid]
      exact formed

theorem convertFields_ok_iff {fields r : Entries} {descriptions : List Value} :
    convertFields fields descriptions = .ok r ↔
      ∃ known, fieldsByName descriptions = .ok known ∧
        List.Forall₂ (fun entry new => new.1 = entry.1 ∧
          convertField known entry.1 entry.2 = .ok new.2) fields r := by
  have each : ∀ (known : Entries) (entry new : Value × Value),
      (do return (entry.1, ← convertField known entry.1 entry.2)
        : Except Failure (Value × Value)) = .ok new ↔
      new.1 = entry.1 ∧ convertField known entry.1 entry.2 = .ok new.2 := by
    intro known entry new
    cases convertField known entry.1 entry.2 with
    | error e => simp
    | ok w =>
      change Except.ok (entry.1, w) = Except.ok new ↔ _
      rw [Except.ok.injEq, Except.ok.injEq, Prod.ext_iff]
      exact and_congr_left fun _ => eq_comm
  unfold convertFields
  constructor
  · intro converted
    obtain ⟨known, named, converted⟩ := Except.bind_ok converted
    refine ⟨known, orFault_eq_ok.mp named, ?_⟩
    exact (Except.mapM_forall₂ converted).imp fun entry new => (each known entry new).mp
  · rintro ⟨known, named, converted⟩
    rw [named]
    exact Except.mapM_of_forall₂ (converted.imp fun entry new => (each known entry new).mpr)

end

end BaseGateway
