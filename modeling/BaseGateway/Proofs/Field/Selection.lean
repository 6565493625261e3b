import BaseGateway.Field.Selection
import BaseGateway.Proofs.Run
import BaseGateway.Proofs.SchemaCache

/-!
# What a selection of fields lets through

Which fields a listing may ask for is told by `Exclusions.permits`: those of the preset where there
is one, and otherwise those that are neither named nor like what is left out. A selection picks the
permitted fields of the table, and nothing where it would pick all of them. The service takes a
request that names no field for one for all fields, so a selection that is left with nothing also
asks for all of them (`selectFields_selects`).
-/

namespace BaseGateway

/-- Does a test hold of a name? It holds of no name that is not a text. -/
def Value.nameIs (test : String → Bool) : Value → Bool
  | .text s => test s
  | _ => false

namespace Exclusions

/-- May a field be asked for? -/
def permits (e : Exclusions) (field : Value) : Bool :=
  match e.preset.bind presetFields? with
  | some names => names.any fun name => field.sameKey (.text name)
  | none =>
    !(e.fields.any fun name => field.sameKey (.text name)) &&
      !(e.attachments && field.nameIs isAttachmentName) &&
      !(e.longText && field.nameIs isLongTextName)

/-- Are these the permitted fields of a table, or all its fields where none is permitted? -/
def Selects (e : Exclusions) (all requested : List Value) : Prop :=
  if all.any e.permits then ∀ field, field ∈ requested ↔ field ∈ all ∧ e.permits field = true
  else requested = all

end Exclusions

/-- The fields that a request for some fields of a table asks for: all where it names none. -/
def requestedFields (all named : List Value) : List Value := if named.isEmpty then all else named

theorem leaveOut_eq {applies : Bool} {test : Value → Except Fault Bool} {p : Value → Bool}
    (agrees : ∀ x b, test x = .ok b → b = p x) {names left : List Value}
    (h : leaveOut applies test names = .ok left) :
    left = names.filter fun name => !(applies && p name) := by
  unfold leaveOut at h
  cases applies with
  | false =>
    obtain rfl := Except.ok.inj h
    simp
  | true =>
    have negated : ∀ x b, (do return !(← test x) : Except Fault Bool) = .ok b → b = !p x := by
      intro x b same
      obtain ⟨c, tested, same⟩ := Except.bind_ok same
      obtain rfl := Except.ok.inj same
      rw [agrees x c tested]
    simpa using ((Except.filterM_ok_iff negated).mp h).2

/-- A test of the text of a name. -/
theorem searchable_agrees (test : String → Bool) (name : Value) (b : Bool)
    (h : (do return test (← searchable name) : Except Fault Bool) = .ok b) :
    b = name.nameIs test := by
  obtain ⟨s, found, h⟩ := Except.bind_ok h
  obtain rfl := Except.ok.inj h
  cases name with
  | text t =>
    obtain rfl := Except.ok.inj found
    rfl
  | _ => cases found

theorem isListed_agrees (fields : List String) (name : Value) (b : Bool)
    (h : isListed fields name = .ok b) :
    b = fields.any fun field => name.sameKey (.text field) := by
  unfold isListed at h
  obtain ⟨_, -, h⟩ := Except.bind_ok h
  exact (Except.ok.inj h).symm

/-- Without a preset, what is left is what is permitted. -/
theorem Exclusions.remaining_eq {e : Exclusions} (free : e.preset.bind presetFields? = none)
    {names left : List Value} (h : e.remaining none names = .ok left) :
    left = names.filter e.permits := by
  unfold Exclusions.remaining at h
  obtain ⟨first, unlisted, h⟩ := Except.bind_ok h
  obtain ⟨second, light, h⟩ := Except.bind_ok h
  obtain ⟨third, short, h⟩ := Except.bind_ok h
  obtain rfl := Except.ok.inj h
  have listed := leaveOut_eq (isListed_agrees e.fields) unlisted
  have attached := leaveOut_eq (searchable_agrees isAttachmentName) light
  have long := leaveOut_eq (searchable_agrees isLongTextName) short
  have same : ∀ name, e.permits name =
      (!(!e.fields.isEmpty && e.fields.any fun field => name.sameKey (.text field)) &&
        !(e.attachments && name.nameIs isAttachmentName) &&
        !(e.longText && name.nameIs isLongTextName)) := by
    intro name
    unfold permits
    rw [free]
    cases e.fields <;> simp
  unfold upTo
  rw [long, attached, listed, List.filter_filter, List.filter_filter]
  refine List.filter_congr fun name _ => ?_
  rw [same]
  ac_rfl

namespace Exclusions.Selects

variable {e : Exclusions} {all named : List Value}

/-- Where all fields are permitted, all of them are asked for. -/
theorem of_all (permitted : ∀ field ∈ all, e.permits field = true) : e.Selects all all := by
  unfold Selects
  split
  · intro field
    constructor
    · intro mem
      exact ⟨mem, permitted field mem⟩
    · exact And.left
  · rfl

/-- Where the permitted fields are named, they are asked for, unless there are none. -/
theorem of_named (picked : ∀ field, field ∈ named ↔ field ∈ all ∧ e.permits field = true) :
    e.Selects all (requestedFields all named) := by
  unfold Selects requestedFields
  split
  · next some =>
    obtain ⟨field, mem, permitted⟩ := List.any_eq_true.mp some
    have found : field ∈ named := (picked field).mpr ⟨mem, permitted⟩
    have full : named.isEmpty = false := by
      cases named with
      | nil => cases found
      | cons => rfl
    rw [full]
    exact picked
  · next none =>
    have empty : named = [] := by
      rw [List.eq_nil_iff_forall_not_mem]
      intro field mem
      obtain ⟨inTable, permitted⟩ := (picked field).mp mem
      exact none (List.any_eq_true.mpr ⟨field, inTable, permitted⟩)
    rw [empty]
    rfl

end Exclusions.Selects

/-- A selection for exclusions asks for the permitted fields of the table, or for all fields where
none is permitted. -/
theorem selectFields_selects {e : Exclusions} {all : List Value} {chosen : Option (List Value)}
    (h : selectFields all [] e none = .ok chosen) :
    e.Selects all (requestedFields all (chosen.getD [])) := by
  unfold selectFields at h
  simp only [List.isEmpty_nil, Bool.not_true, Bool.false_eq_true, if_false] at h
  cases preset : e.preset.bind presetFields? with
  | some names =>
    rw [preset] at h
    obtain ⟨_, -, h⟩ := Except.bind_ok h
    obtain rfl := Except.ok.inj h
    obtain ⟨p, given, fields⟩ := Option.bind_eq_some_iff.mp preset
    apply Exclusions.Selects.of_named
    intro field
    have picked : (((e.preset.bind (presetSelection? · (some all))).map (·.map Value.text)).getD
        []) = (names.filter fun name => all.any (Value.sameKey (.text name))).map .text := by
      simp [given, presetSelection?, fields]
    have permitted : e.permits field = names.any fun name => field.sameKey (.text name) := by
      unfold Exclusions.permits
      rw [preset]
    rw [picked, permitted]
    simp only [List.mem_map, List.mem_filter, List.any_eq_true, Value.text_sameKey,
      Value.sameKey_text]
    constructor
    · rintro ⟨name, ⟨inPreset, _, mem, rfl⟩, rfl⟩
      exact ⟨mem, name, inPreset, rfl⟩
    · rintro ⟨mem, name, inPreset, rfl⟩
      exact ⟨name, ⟨inPreset, _, mem, rfl⟩, rfl⟩
  | none =>
    rw [preset] at h
    obtain ⟨left, remains, h⟩ := Except.bind_ok h
    obtain rfl := Except.ok.inj h
    have kept := Exclusions.remaining_eq preset remains
    by_cases whole : left.length = all.length
    · rw [if_pos whole]
      apply Exclusions.Selects.of_all
      rw [kept] at whole
      exact List.length_filter_eq_length_iff.mp whole
    · rw [if_neg whole]
      apply Exclusions.Selects.of_named
      intro field
      rw [kept]
      exact List.mem_filter

end BaseGateway
