import BaseGateway.Proofs.Field.Conversion
import BaseGateway.Proofs.SchemaCache

/-!
# The shape of what is written

The service takes values of a certain shape for each kind of field (`FieldKind.Expects`). A valid
value comes out in that shape exactly where it fits the field (`FieldKind.Fits`): whatever is one
text, one truth value or one option always does, while the items of a list are sent as they are,
and a number may be beyond all bounds (`convertFields_expected`).

The choices of a field bind what is sent: where a field lists choices, a value that passed has the
name of one of them, item by item (`offered_single`, `offered_items`).
-/

namespace BaseGateway

/-- Choices that a field lists among its options. -/
def ListsChoices (field : Value) (choices : List Value) : Prop :=
  choices ≠ [] ∧
    ∃ options, field.get "options" = .ok options ∧ options.get "choices" = .ok (.list choices)

/-- A text is the name of a choice wherever the field lists any. -/
def IsOffered (field : Value) (s : String) : Prop :=
  ∀ choices, ListsChoices field choices → ∃ choice ∈ choices, choice.item "name" = .ok (.text s)

def Value.IsDictionary (v : Value) : Prop := ∃ entries, v = .dictionary entries

namespace FieldKind

/-- The shape that the service takes for fields of a kind. -/
def Expects (field : Value) : FieldKind → Value → Prop
  | .singleSelect, w => ∃ s, w = .text s ∧ IsOffered field s
  | .multipleSelect, w =>
    ∃ items, w = .list items ∧ ∀ item ∈ items, ∃ s, item = .text s ∧ IsOffered field s
  | .number, w => (∃ n, w = .int n) ∨ ∃ x, w = .float x ∧ x.isFinite = true
  | .checkbox, w => ∃ b, w = .bool b
  | .recordLinks, w => ∃ items, w = .list items ∧ ∀ item ∈ items, ∃ s, item = .text s
  | .attachments, w | .collaborators, w =>
    ∃ items, w = .list items ∧ ∀ item ∈ items, item.IsDictionary
  | .email, w | .url, w | .text, w => ∃ s, w = .text s
  | .date, _ | .generated, _ | .computed, _ | .plain, _ => True

/-- The values that take on that shape. -/
def Fits : FieldKind → Value → Prop
  | .multipleSelect, .list items => ∀ item ∈ items, ∃ s, item = .text s
  | .number, .int _ => True
  | .number, .float x => x.isFinite = true
  | .number, v => ∀ s x, v.display = .ok s → Decimal.readFloat? s = some x → x.isFinite = true
  | .recordLinks, v => ∀ item ∈ v.asItems, item.IsLink
  | .attachments, v | .collaborators, v =>
    ∀ item ∈ v.asItems, (∃ s, item = .text s) ∨ item.IsDictionary
  | _, _ => True

end FieldKind

section

variable {v w field : Value} {kind : FieldKind}

/-- The names of choices are read where there are choices. -/
theorem choiceNames?_eq {choices : List Value} (lists : ListsChoices field choices) :
    choiceNames? field = (do return some (← choices.mapM fun choice => choice.item "name")) := by
  obtain ⟨some, options, given, listed⟩ := lists
  have solid : options.isGiven = true := by
    cases options with
    | dictionary entries =>
      cases entries with
      | nil => cases listed
      | cons => rfl
    | _ => cases listed
  have chosen : Value.isGiven (.list choices) = true := by simp [Value.isGiven, some]
  unfold choiceNames?
  rw [given]
  dsimp only [bind, Except.bind]
  rw [if_pos solid, listed]
  dsimp only
  rw [if_pos chosen]
  rfl

/-- A text among the names of the choices is offered. -/
theorem isOffered_of {names : Option (List Value)} {s : String}
    (found : choiceNames? field = .ok names)
    (among : ∀ all, names = some all → all.isEmpty = true ∨ isAmong all s = true) :
    IsOffered field s := by
  intro choices lists
  rw [choiceNames?_eq lists] at found
  obtain ⟨all, mapped, same⟩ := Except.bind_ok found
  have each := Except.mapM_each
    (S := fun name => ∃ choice ∈ choices, choice.item "name" = .ok name)
    (fun choice mem name read => ⟨choice, mem, read⟩) mapped
  rcases among all (Except.ok.inj same).symm with empty | among
  · have nothing := (Except.mapM_forall₂ mapped).length_eq
    rw [List.isEmpty_iff.mp empty, List.length_nil, List.length_eq_zero_iff] at nothing
    exact absurd nothing lists.1
  · rw [isAmong, List.any_eq_true] at among
    obtain ⟨name, mem, same⟩ := among
    have named : name = .text s := by
      cases name with
      | text t => simpa using same
      | _ => cases same
    rw [named] at mem
    exact each (.text s) mem

/-- The option that passed is offered. -/
theorem offered_single {s : String} (solid : v.isNull = false)
    (described : FieldKind.ofDescription field = .ok (some .singleSelect))
    (shown : v.display = .ok s) (valid : fieldProblem? v field = .ok none) :
    IsOffered field s := by
  unfold fieldProblem? at valid
  rw [solid, described] at valid
  obtain ⟨name, named, valid⟩ := Except.bind_ok (x := field.get "name") valid
  obtain ⟨names, found, valid⟩ := Except.bind_ok valid
  refine isOffered_of found fun all same => ?_
  subst same
  rw [shown] at valid
  dsimp only [bind, Except.bind] at valid
  split at valid
  · next among => simpa using among
  · obtain ⟨_, _, valid⟩ := Except.bind_ok valid
    obtain ⟨_, _, valid⟩ := Except.bind_ok valid
    cases valid

/-- The options that passed are offered one by one. -/
theorem offered_items (solid : v.isNull = false)
    (described : FieldKind.ofDescription field = .ok (some .multipleSelect))
    (valid : fieldProblem? v field = .ok none) {item : Value} (mem : item ∈ v.asItems) {s : String}
    (shown : item.display = .ok s) : IsOffered field s := by
  unfold fieldProblem? at valid
  rw [solid, described] at valid
  obtain ⟨name, named, valid⟩ := Except.bind_ok (x := field.get "name") valid
  obtain ⟨names, found, valid⟩ := Except.bind_ok valid
  refine isOffered_of found fun all same => ?_
  subst same
  dsimp only at valid
  split at valid
  · next empty => exact .inl empty
  · obtain ⟨texts, displayed, valid⟩ := Except.bind_ok valid
    have inTexts : s ∈ texts := by
      obtain ⟨t, inTexts, same⟩ := forall_of_forall₂
        (S := fun item => ∃ t ∈ texts, item.display = .ok t)
        (fun t mem item shown => ⟨t, mem, shown⟩) (Except.mapM_forall₂ displayed).flip item mem
      rwa [Except.ok.inj (shown.symm.trans same)]
    split at valid
    · next none =>
      rw [List.isEmpty_iff, List.filter_eq_nil_iff] at none
      exact .inr (by simpa using none s inTexts)
    · obtain ⟨_, _, valid⟩ := Except.bind_ok valid
      obtain ⟨_, _, valid⟩ := Except.bind_ok valid
      cases valid

/-- What a text is wrapped in is a dictionary, and nothing else becomes one. -/
theorem wrapText_dictionary_iff {key : String} :
    (wrapText key v).IsDictionary ↔ (∃ s, v = .text s) ∨ v.IsDictionary := by
  cases v with
  | text s => simp [wrapText, Value.record, Value.IsDictionary]
  | _ => simp [wrapText, Value.IsDictionary]

/-- A float is expected exactly where it is finite. -/
theorem expects_float_iff {x : Float} :
    FieldKind.number.Expects field (.float x) ↔ x.isFinite = true := by
  simp [FieldKind.Expects]

/-- Several options are expected where each of them is a text. -/
theorem FieldKind.Forms.expects_options_iff (formed : FieldKind.multipleSelect.Forms v w)
    (solid : v.isNull = false)
    (described : FieldKind.ofDescription field = .ok (some .multipleSelect))
    (valid : fieldProblem? v field = .ok none) :
    FieldKind.multipleSelect.Expects field w ↔ FieldKind.multipleSelect.Fits v := by
  have single : ∀ s, v.display = .ok s → v ∈ v.asItems → w = .list [.text s] →
      FieldKind.multipleSelect.Expects field w := by
    rintro s shown mem rfl
    refine ⟨_, rfl, List.forall_mem_singleton.mpr ⟨s, rfl, ?_⟩⟩
    exact offered_items solid described valid mem shown
  cases v with
  | list items =>
    obtain rfl : w = .list items := formed
    constructor
    · rintro ⟨items', same, texts⟩ item mem
      cases same
      obtain ⟨s, is, -⟩ := texts item mem
      exact ⟨s, is⟩
    · intro texts
      refine ⟨items, rfl, fun item mem => ?_⟩
      obtain ⟨s, rfl⟩ := texts item mem
      exact ⟨s, rfl, offered_items solid described valid mem rfl⟩
  | _ =>
    obtain ⟨s, shown, same⟩ := formed
    exact iff_of_true (single s shown List.mem_cons_self same) trivial

/-- A valid value has the expected shape exactly where it fits its field. -/
theorem FieldKind.Forms.expects_iff (formed : kind.Forms v w) (solid : v.isNull = false)
    (described : FieldKind.ofDescription field = .ok (some kind))
    (valid : fieldProblem? v field = .ok none) : kind.Expects field w ↔ kind.Fits v := by
  cases kind with
  | singleSelect =>
    obtain ⟨s, shown, rfl⟩ := formed
    exact iff_of_true ⟨s, rfl, offered_single solid described shown valid⟩ trivial
  | multipleSelect => exact formed.expects_options_iff solid described valid
  | number =>
    cases v with
    | int n => exact iff_of_true (.inl ⟨n, formed⟩) trivial
    | float x =>
      obtain rfl : w = .float x := formed
      exact expects_float_iff
    | _ =>
      obtain ⟨s, x, shown, read, rfl⟩ := formed
      rw [expects_float_iff]
      constructor
      · intro finite s' x' shown' read'
        obtain rfl := Except.ok.inj (shown.symm.trans shown')
        rwa [← Option.some.inj (read.symm.trans read')]
      · exact fun finite => finite s x shown read
  | checkbox => exact iff_of_true ⟨_, formed⟩ trivial
  | recordLinks =>
    obtain ⟨ids, read, rfl⟩ := formed
    have each := Except.mapM_forall₂ read
    constructor
    · rintro ⟨items, same, texts⟩
      cases same
      exact forall_of_forall₂
        (fun id mem item linked => (linkForm_text_iff linked).mp (texts id mem)) each.flip
    · intro links
      refine ⟨ids, rfl, ?_⟩
      exact forall_of_forall₂
        (fun item mem id linked => (linkForm_text_iff linked).mpr (links item mem)) each
  | attachments | collaborators =>
    obtain rfl : w = .list _ := formed
    simp [Expects, Fits, wrapText_dictionary_iff]
  | email | url | text =>
    obtain ⟨s, -, rfl⟩ := formed
    exact iff_of_true ⟨s, rfl⟩ trivial
  | date | plain => exact Iff.rfl
  | generated | computed => exact formed.elim

/-- What is written to the one field that is described has the shape that the service takes exactly
where the value fits the field. -/
theorem convertFields_expected {name : String} {r : Entries} (solid : v.isNull = false)
    (named : field.item "name" = .ok (.text name))
    (described : FieldKind.ofDescription field = .ok (some kind))
    (converted : convertFields [(.text name, v)] [field] = .ok r) :
    ∃ w, r = [(.text name, w)] ∧ (kind.Expects field w ↔ kind.Fits v) := by
  have known : fieldsByName [field] = .ok [(.text name, field)] := by
    unfold fieldsByName
    rw [List.mapM_cons, named]
    rfl
  have found : Entries.find? [(.text name, field)] (.text name) = some field := by
    simp [Entries.find?, Value.sameKey_text]
  obtain ⟨known', same, each⟩ := convertFields_ok_iff.mp converted
  obtain rfl := Except.ok.inj (known.symm.trans same)
  cases each with
  | cons first rest =>
    next new others =>
    cases rest
    obtain ⟨name', w⟩ := new
    obtain ⟨rfl, written⟩ := first
    rcases convertField_ok_iff.mp written with ⟨missing, -⟩ | ⟨field', found', valid, formed⟩
    · rw [found] at missing
      cases missing
    · obtain rfl := Option.some.inj (found.symm.trans found')
      have form := (fieldForm_ok_iff solid described).mp formed
      exact ⟨w, rfl, form.expects_iff solid described valid⟩

end

/-- A field of several options, one of which looks like a number. -/
def ratingsField : Value :=
  .record [("name", .text "Ratings"), ("type", .text "multipleSelects"),
    ("options", .record [("choices", .list [.record [("name", .text "5")]])])]

theorem ratingsField_kind : FieldKind.ofDescription ratingsField = .ok (some .multipleSelect) := rfl

theorem display_five : (Value.int 5).display = .ok "5" := by
  have digits : Decimal.intText? 5 = some "5" := by decide +kernel
  simp [Value.display, Value.text?, Value.quoted?, Value.quotedChars?, digits]

/-- A number that looks like an option passes for it, by itself or in a list. -/
theorem convertFields_five {v w : Value} (solid : v.isNull = false) (item : v.asItems = [.int 5])
    (formed : FieldKind.multipleSelect.Forms v w) :
    convertFields [(.text "Ratings", v)] [ratingsField] = .ok [(.text "Ratings", w)] := by
  have chosen : choiceNames? ratingsField = .ok (some [.text "5"]) := rfl
  have shown : v.asItems.mapM Value.display = .ok ["5"] := by
    rw [item, List.mapM_cons, display_five]
    rfl
  have valid : fieldProblem? v ratingsField = .ok none := by
    unfold fieldProblem?
    rw [solid, ratingsField_kind, chosen, shown]
    rfl
  have form := (fieldForm_ok_iff solid ratingsField_kind).mpr formed
  refine convertFields_ok_iff.mpr ⟨[(.text "Ratings", ratingsField)], rfl, .cons ⟨rfl, ?_⟩ .nil⟩
  exact convertField_ok_iff.mpr (.inr ⟨ratingsField, rfl, valid, form⟩)

/-- By itself the number is written as the option. -/
theorem convertFields_expected_five :
    (Value.int 5).isNull = false ∧ ratingsField.item "name" = .ok (.text "Ratings") ∧
      FieldKind.ofDescription ratingsField = .ok (some .multipleSelect) ∧
      convertFields [(.text "Ratings", .int 5)] [ratingsField] =
        .ok [(.text "Ratings", .list [.text "5"])] ∧
      FieldKind.multipleSelect.Expects ratingsField (.list [.text "5"]) := by
  have solid : (Value.int 5).isNull = false := rfl
  have named : ratingsField.item "name" = .ok (.text "Ratings") := rfl
  have converted := convertFields_five solid rfl ⟨"5", display_five, rfl⟩
  obtain ⟨w, same, expected⟩ := convertFields_expected solid named ratingsField_kind converted
  cases same
  exact ⟨solid, named, ratingsField_kind, converted, expected.mpr trivial⟩

/-- In a list the number is written as it is. -/
theorem convertFields_leaves_number :
    convertFields [(.text "Ratings", .list [.int 5])] [ratingsField] =
        .ok [(.text "Ratings", .list [.int 5])] ∧
      ¬FieldKind.multipleSelect.Expects ratingsField (.list [.int 5]) := by
  refine ⟨convertFields_five rfl rfl rfl, ?_⟩
  rintro ⟨items, same, texts⟩
  cases same
  obtain ⟨s, text, -⟩ := texts (.int 5) List.mem_cons_self
  cases text

end BaseGateway
