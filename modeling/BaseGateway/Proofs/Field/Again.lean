import BaseGateway.Proofs.Calendar.Reading
import BaseGateway.Proofs.Field.Conversion

/-!
# What is written once more

A record that was brought into the form its fields ask for is in that form: writing it once more
changes nothing (`convertFields_idempotent`). Each kind of field settles its values at once
(`FieldKind.Forms.again`); for dates this rests on reading back the form that they are written in
(`isoForm_isoForm`). A date that is not a text yet takes its last form at the second time only, and
a link whose ID is no text may lead on from there, so neither is among the values.
-/

namespace BaseGateway

/-- A date, or a date with a time, that is not a text. -/
def Value.IsMoment : Value → Prop
  | .date _ | .dateTime _ => True
  | _ => False

/-- A time in its ISO form stays. -/
theorem isoForm_isoText {t : Calendar.DateTime} (seconds : ∀ o ∈ t.offset, o.InSeconds) :
    isoForm (.text t.isoText) = .text t.isoText := by
  have noLetter : 'Z' ∉ t.chars 'T' := by
    intro mem
    rcases Calendar.DateTime.mem_chars mem with digit | same | other
    · cases digit
    · cases same
    · revert other
      decide
  have same : t.isoText.toList = t.chars 'T' := String.toList_ofList
  have read := Calendar.DateTime.read?_chars seconds 'T'
  rw [isoForm, same, Text.replaceChars_of_not_mem noLetter, read]

theorem isoForm_isoForm {v : Value} (plain : ¬v.IsMoment) : isoForm (isoForm v) = isoForm v := by
  cases v with
  | text s =>
    cases read : Calendar.DateTime.read?
        (Text.replaceChars 'Z' "+00:00".toList s.toList) with
    | none => simp only [isoForm, read]
    | some t =>
      have form : isoForm (.text s) = .text t.isoText := by simp only [isoForm, read]
      rw [form, isoForm_isoText (Calendar.DateTime.read?_inSeconds read)]
  | date d => exact absurd trivial plain
  | dateTime t => exact absurd trivial plain
  | _ => rfl

/-- A link that leads to a text is settled by it. -/
theorem mapM_linkForm {items ids : List Value} (read : items.mapM linkForm = .ok ids)
    (linked : ∀ item ∈ items, item.IsLink) : ids.mapM linkForm = .ok ids := by
  have texts : ∀ id ∈ ids, ∃ s, id = .text s :=
    Except.mapM_each
      (fun item mem id formed => (linkForm_text_iff formed).mpr (linked item mem)) read
  refine Except.mapM_of_forall₂ (List.forall₂_same.mpr fun id mem => ?_)
  obtain ⟨s, rfl⟩ := texts id mem
  rfl

theorem wrapText_wrapText (key : String) (v : Value) :
    wrapText key (wrapText key v) = wrapText key v := by
  cases v <;> rfl

section

variable {v w field : Value} {kind : FieldKind}

/-- A value in the form that its field asks for keeps that form. -/
theorem FieldKind.Forms.again (formed : kind.Forms v w) (plain : ¬v.IsMoment)
    (linked : kind = .recordLinks → ∀ item ∈ v.asItems, item.IsLink) : kind.Forms w w := by
  cases kind with
  | singleSelect | email | url | text =>
    obtain ⟨s, -, rfl⟩ := formed
    exact ⟨s, rfl, rfl⟩
  | multipleSelect =>
    obtain ⟨items, rfl⟩ := formed.exists_options
    exact rfl
  | date =>
    obtain rfl : w = isoForm v := formed
    exact (isoForm_isoForm plain).symm
  | number => rcases formed.exists_number with ⟨n, rfl⟩ | ⟨x, rfl⟩ <;> exact rfl
  | checkbox =>
    obtain rfl : w = .bool (checkboxForm v) := formed
    exact rfl
  | recordLinks =>
    obtain ⟨ids, read, rfl⟩ := formed
    exact ⟨ids, mapM_linkForm read (linked rfl), rfl⟩
  | attachments | collaborators =>
    obtain rfl : w = .list _ := formed
    simp [Forms, Value.asItems, wrapText_wrapText]
  | generated | computed => exact formed.elim
  | plain => exact rfl

/-- A field without a kind of its own takes a value as it is. -/
theorem fieldForm_unknown (solid : v.isNull = false)
    (described : FieldKind.ofDescription field = .ok none) : fieldForm v field = .ok v := by
  unfold fieldForm
  rw [solid, described]
  rfl

/-- Where a value passed, the kind of its field could be told. -/
theorem exists_kind_of_valid (solid : v.isNull = false) {problem : Option String}
    (checked : fieldProblem? v field = .ok problem) :
    ∃ kind?, FieldKind.ofDescription field = .ok kind? := by
  unfold fieldProblem? at checked
  rw [solid] at checked
  obtain ⟨kind?, described, -⟩ := Except.bind_ok (x := FieldKind.ofDescription field) checked
  exact ⟨kind?, described⟩

/-- A value that is written to a field is written the same once more. -/
theorem fieldForm_again (plain : ¬v.IsMoment)
    (linked : FieldKind.ofDescription field = .ok (some .recordLinks) → v.isNull = false →
      ∀ item ∈ v.asItems, item.IsLink)
    (valid : fieldProblem? v field = .ok none) (formed : fieldForm v field = .ok w) :
    fieldProblem? w field = .ok none ∧ fieldForm w field = .ok w := by
  cases solid : v.isNull with
  | true =>
    unfold fieldForm at formed
    rw [solid] at formed
    obtain rfl : Value.null = w := Except.ok.inj formed
    exact ⟨rfl, rfl⟩
  | false =>
    obtain ⟨kind?, described⟩ := exists_kind_of_valid solid valid
    cases kind? with
    | none =>
      obtain rfl : w = v := given_iff.mp ((fieldForm_unknown solid described).symm.trans formed)
      exact ⟨valid, formed⟩
    | some kind =>
      have form := (fieldForm_ok_iff solid described).mp formed
      have again : kind.Forms w w := form.again plain fun same =>
        linked (by rw [described, same]) solid
      rw [fieldProblem?_form solid described form]
      exact ⟨valid, (fieldForm_ok_iff (form.solid solid) described).mpr again⟩

theorem convertField_again {known : Entries} {name : Value} (plain : ¬v.IsMoment)
    (linked : ∀ field, Entries.find? known name = some field →
      FieldKind.ofDescription field = .ok (some .recordLinks) → v.isNull = false →
      ∀ item ∈ v.asItems, item.IsLink)
    (converted : convertField known name v = .ok w) : convertField known name w = .ok w := by
  rw [convertField_ok_iff] at converted ⊢
  rcases converted with ⟨missing, -⟩ | ⟨field, found, valid, formed⟩
  · exact .inl ⟨missing, rfl⟩
  · exact .inr ⟨field, found, fieldForm_again plain (linked field found) valid formed⟩

end

/-- The description under which a value is written: the last one that has its name. -/
def Describes (descriptions : List Value) (name field : Value) : Prop :=
  ∃ known, fieldsByName descriptions = .ok known ∧ Entries.find? known name = some field

/-- What was written to a record is written to the same names, and once more it stays as it is. -/
theorem convertFields_idempotent {fields r : Entries} {descriptions : List Value}
    (plain : ∀ entry ∈ fields, ¬entry.2.IsMoment)
    (linked : ∀ entry ∈ fields, ∀ field, Describes descriptions entry.1 field →
      FieldKind.ofDescription field = .ok (some .recordLinks) → entry.2.isNull = false →
      ∀ item ∈ entry.2.asItems, item.IsLink)
    (converted : convertFields fields descriptions = .ok r) :
    r.map Prod.fst = fields.map Prod.fst ∧ convertFields r descriptions = .ok r := by
  obtain ⟨known, named, each⟩ := convertFields_ok_iff.mp converted
  constructor
  · rw [← List.forall₂_eq_eq_eq, List.forall₂_map_left_iff, List.forall₂_map_right_iff]
    exact each.flip.imp fun new entry written => written.1
  · refine convertFields_ok_iff.mpr ⟨known, named, List.forall₂_same.mpr ?_⟩
    refine forall_of_forall₂ (fun entry mem new written => ?_) each
    obtain ⟨name, written⟩ := written
    rw [name]
    refine ⟨rfl, convertField_again (plain entry mem) (fun field found => ?_) written⟩
    exact linked entry mem field ⟨known, named, found⟩

/-- The fields of a task: when it is due, and the tasks that it follows. -/
def taskFields : List Value :=
  [.record [("name", .text "Due"), ("type", .text "dateTime")],
    .record [("name", .text "After"), ("type", .text "multipleRecordLinks")]]

/-- A task with a link of either kind, due on a day that is given by its week. -/
def taskGiven : Entries :=
  [(.text "After", .list [.record [("id", .text "rec2")], .text "rec3"]),
    (.text "Due", .text "2024-W09-5T10Z")]

def taskWritten : Entries :=
  [(.text "After", .list [.text "rec2", .text "rec3"]),
    (.text "Due", .text "2024-03-01T10:00:00+00:00")]

theorem convertFields_idempotent_task :
    (∀ entry ∈ taskGiven, ¬entry.2.IsMoment) ∧
      (∀ entry ∈ taskGiven, ∀ item ∈ entry.2.asItems, item.IsLink) ∧
      convertFields taskGiven taskFields = .ok taskWritten ∧
      convertFields taskWritten taskFields = .ok taskWritten := by
  have plain : ∀ entry ∈ taskGiven, ¬entry.2.IsMoment := by simp [taskGiven, Value.IsMoment]
  have byDictionary : (Value.record [("id", .text "rec2")]).item "id" = .ok (.text "rec2") := rfl
  have linked : ∀ entry ∈ taskGiven, ∀ item ∈ entry.2.asItems, item.IsLink := by
    simp [taskGiven, Value.asItems, Value.IsLink, byDictionary]
  have converted : convertFields taskGiven taskFields = .ok taskWritten := rfl
  have again := convertFields_idempotent plain (fun entry mem _ _ _ _ => linked entry mem) converted
  exact ⟨plain, linked, converted, again.2⟩

end BaseGateway
