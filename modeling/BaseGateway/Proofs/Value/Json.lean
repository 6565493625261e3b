import Mathlib.Algebra.Group.Nat.Defs
import Mathlib.Data.List.Forall2
import BaseGateway.Proofs.Run
import BaseGateway.Value.Access

/-!
# Values that JSON has a form for

The values that come out of a JSON document and can be written as one: no dates, texts alone as
keys, and no integer of too many digits (`Value.IsJson`). Looking into such a value gives such
values.
-/

namespace BaseGateway

/-- An integer of no more digits than are written and read. -/
structure Decimal.IsShort (n : Int) : Prop where
  bound : n.natAbs < 10 ^ maxDigits

namespace Value

mutual

/-- A value that JSON has a form for. -/
def IsJson : Value → Prop
  | .null | .bool _ | .float _ | .text _ => True
  | .int n => Decimal.IsShort n
  | .list items => AllJson items
  | .dictionary entries => EntriesJson entries
  | .date _ | .dateTime _ => False

def AllJson : List Value → Prop
  | [] => True
  | v :: rest => IsJson v ∧ AllJson rest

def EntriesJson : List (Value × Value) → Prop
  | [] => True
  | (key, v) :: rest => (∃ s, key = .text s) ∧ IsJson v ∧ EntriesJson rest

end

theorem isJson_list_iff (items : List Value) : IsJson (.list items) ↔ ∀ v ∈ items, v.IsJson := by
  rw [IsJson]
  induction items with
  | nil => simp [AllJson]
  | cons v rest ih => rw [AllJson, ih, List.forall_mem_cons]

theorem isJson_dictionary_iff (entries : Entries) : IsJson (.dictionary entries) ↔
    ∀ entry ∈ entries, (∃ s, entry.1 = .text s) ∧ entry.2.IsJson := by
  rw [IsJson]
  induction entries with
  | nil => simp [EntriesJson]
  | cons entry rest ih => rw [EntriesJson, ih, List.forall_mem_cons, and_assoc]

theorem isJson_values {entries : Entries} (json : IsJson (.dictionary entries)) :
    ∀ entry ∈ entries, entry.2.IsJson :=
  fun entry mem => ((isJson_dictionary_iff entries).mp json entry mem).2

/-- Values that are all JSON data. -/
def AreJson (items : List Value) : Prop := ∀ v ∈ items, v.IsJson

theorem AreJson.isJson {items : List Value} (h : AreJson items) : IsJson (.list items) :=
  (isJson_list_iff items).mpr h

/-- A number of things that a list can hold has few digits. -/
theorem isJson_count {n : Nat} (h : n < 2 ^ 63) : IsJson (.int n) := by
  have room : (2 : Nat) ^ 63 < 10 ^ 20 := by decide
  have digits : (10 : Nat) ^ 20 ≤ 10 ^ Decimal.maxDigits :=
    Nat.pow_le_pow_right (by decide) (by decide)
  refine ⟨?_⟩
  rw [Int.natAbs_natCast]
  omega

theorem isJson_record {fields : List (String × Value)} (h : ∀ field ∈ fields, field.2.IsJson) :
    (record fields).IsJson := by
  rw [record, isJson_dictionary_iff]
  intro entry mem
  obtain ⟨field, inFields, rfl⟩ := List.mem_map.mp mem
  exact ⟨⟨_, rfl⟩, h field inFields⟩

/-- The fields of a record one by one. -/
theorem isJson_fields {fields : List (String × Value)}
    (h : fields.Forall fun field => field.2.IsJson) : (record fields).IsJson :=
  isJson_record (List.forall_iff_forall_mem.mp h)

theorem isJson_ofTexts (texts : List String) : (ofTexts texts).IsJson := by
  rw [ofTexts, isJson_list_iff]
  exact List.forall_mem_map.mpr fun s _ => trivial

theorem isJson_ofText? (s : Option String) : (ofText? s).IsJson := by
  cases s <;> trivial

end Value

namespace Entries

open Value

theorem find?_mem {entries : Entries} {key v : Value} (h : find? entries key = some v) :
    ∃ entry ∈ entries, entry.2 = v := by
  rw [find?, Option.map_eq_some_iff] at h
  obtain ⟨entry, found, same⟩ := h
  exact ⟨entry, List.mem_of_find?_eq_some found, same⟩

/-- What all values have is had by the one under a key. -/
theorem find?_values {P : Value → Prop} {entries : Entries} {key v : Value}
    (h : ∀ entry ∈ entries, P entry.2) (found : find? entries key = some v) : P v := by
  obtain ⟨entry, mem, rfl⟩ := find?_mem found
  exact h entry mem

/-- What all values have is still had when a key is set to another value that has it. -/
theorem insert_values {P : Value → Prop} (key : Value) {v : Value} (new : P v) {entries : Entries}
    (h : ∀ entry ∈ entries, P entry.2) : ∀ entry ∈ insert key v entries, P entry.2 := by
  induction entries with
  | nil => exact List.forall_mem_singleton.mpr new
  | cons entry rest ih =>
    rw [List.forall_mem_cons] at h
    rw [insert]
    split
    · exact List.forall_mem_cons.mpr ⟨new, h.2⟩
    · exact List.forall_mem_cons.mpr ⟨h.1, ih h.2⟩

theorem override_values {P : Value → Prop} {new entries : Entries}
    (h : ∀ entry ∈ new, P entry.2) (old : ∀ entry ∈ entries, P entry.2) :
    ∀ entry ∈ override entries new, P entry.2 := by
  induction new generalizing entries with
  | nil => exact old
  | cons entry rest ih =>
    rw [List.forall_mem_cons] at h
    change ∀ e ∈ override (insert entry.1 entry.2 entries) rest, P e.2
    exact ih h.2 (insert_values entry.1 h.1 old)

end Entries

namespace Value

/-- A number of things that is told. -/
theorem count_ok {n : Nat} {v : Value} (h : count n = .ok v) : v = .int n ∧ v.IsJson := by
  unfold count at h
  split at h
  · next few =>
    obtain rfl := Except.ok.inj h
    rw [Nat.pow_eq] at few
    exact ⟨rfl, isJson_count few⟩
  · cases h

theorem getOr_isJson {v w otherwise : Value} {key : String} (json : v.IsJson)
    (fallback : otherwise.IsJson) (got : v.getOr key otherwise = .ok w) : w.IsJson := by
  unfold getOr at got
  split at got
  · next entries =>
    obtain rfl := Except.ok.inj got
    cases found : Entries.get? entries key with
    | none => exact fallback
    | some w => exact Entries.find?_values (isJson_values json) found
  · cases got

theorem get_isJson {v w : Value} {key : String} (json : v.IsJson) (got : v.get key = .ok w) :
    w.IsJson := by
  have null : IsJson .null := trivial
  have same : v.getOr key .null = .ok w := by
    rw [← got]
    rfl
  exact getOr_isJson json null same

theorem item_isJson {v w : Value} {key : String} (json : v.IsJson) (got : v.item key = .ok w) :
    w.IsJson := by
  unfold item at got
  split at got
  · split at got
    · next found =>
      obtain rfl := Except.ok.inj got
      exact Entries.find?_values (isJson_values json) found
    · cases got
  · cases got
  · cases got
  · cases got

/-- What texts have, and the items of a list, all parts have where the keys are texts. -/
theorem parts_each {P : Value → Prop} {v : Value} {parts : List Value} (texts : ∀ s, P (.text s))
    (items : ∀ own, v = .list own → ∀ item ∈ own, P item)
    (keys : ∀ own, v = .dictionary own → ∀ entry ∈ own, ∃ s, entry.1 = .text s)
    (got : v.parts = .ok parts) : ∀ part ∈ parts, P part := by
  unfold Value.parts at got
  split at got
  · next own =>
    obtain rfl := Except.ok.inj got
    exact items _ rfl
  · next own =>
    obtain rfl := Except.ok.inj got
    refine List.forall_mem_map.mpr fun entry mem => ?_
    obtain ⟨s, named⟩ := keys own rfl entry mem
    rw [named]
    exact texts s
  · obtain rfl := Except.ok.inj got
    exact List.forall_mem_map.mpr fun c _ => texts _
  · cases got

theorem parts_isJson {v : Value} {items : List Value} (json : v.IsJson)
    (got : v.parts = .ok items) : AreJson items := by
  refine parts_each (fun _ => trivial) ?_ ?_ got
  · rintro own rfl
    exact (isJson_list_iff own).mp json
  · rintro own rfl entry mem
    exact ((isJson_dictionary_iff own).mp json entry mem).1

end Value

end BaseGateway
