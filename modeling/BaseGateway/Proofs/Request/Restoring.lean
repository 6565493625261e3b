import BaseGateway.Proofs.Condition.Restoring

/-!
# Requests that are read again

A request whose parts were read is read again from its arguments as they are written out. This holds
of the parts that requests share (`Target.Restored.read_again`, `Extent.Restored.read_again`) and so
of a query of conditions (`SmartQuery.read_again`), wherever the parts were read first.
-/

namespace BaseGateway

open Checked Intake

namespace Target

/-- A table and a base that were read. -/
structure Restored (t : Target) : Prop where
  base : ∀ b ∈ t.baseId, Intake.baseId (.text b) = .valid b
  table : tableName (.text t.table) = .valid t.table

theorem read_restored (entries : Entries) : (read entries).Every Restored := by
  have table : ∀ v, (tableName v).Every fun s => tableName (.text s) = .valid s :=
    name_restores "Table"
  refine Every.seq (Every.map (given_restores (id_restores "app") entries .baseId) ?_)
    (required_any .table table)
  intro b base t named
  exact ⟨base, named⟩

theorem Restored.read_again {t : Target} (h : t.Restored) {entries : Entries}
    (held : ∀ arg ∈ t.arguments, arg.1.Holds arg.2 entries) : read entries = .valid t := by
  obtain ⟨base, held⟩ := List.forall_mem_cons.mp held
  obtain ⟨table, -⟩ := List.forall_mem_cons.mp held
  unfold read
  rw [base.given (Value.ofText?_eq _ ▸ optional_again (fun _ => rfl) h.base),
    table.required rfl h.table]
  rfl

end Target

namespace Extent

/-- A number of records and fields that were read. -/
structure Restored (e : Extent) : Prop where
  count : ∀ n ∈ e.maxRecords, recordCount (.int n) = .valid n
  fields : ∀ fields ∈ e.fields, Intake.fieldNames (.ofTexts fields) = .valid fields

theorem read_restored (entries : Entries) : (read entries).Every Restored := by
  have fields : Restores Intake.fieldNames Value.ofTexts :=
    texts_restores (name_restores "Field") 0 Limits.fields
  refine Every.seq (Every.map (given_restores (positiveUpTo_restores _) entries .maxRecords) ?_)
    (given_restores fields entries .fields)
  intro n count names listed
  exact ⟨count, listed⟩

theorem Restored.read_again {e : Extent} (h : e.Restored) {entries : Entries}
    (held : ∀ arg ∈ e.arguments, arg.1.Holds arg.2 entries) : read entries = .valid e := by
  obtain ⟨count, held⟩ := List.forall_mem_cons.mp held
  obtain ⟨fields, -⟩ := List.forall_mem_cons.mp held
  unfold read
  rw [count.given (optional_again (fun _ => rfl) h.count),
    fields.given (optional_again (fun _ => rfl) h.fields)]
  rfl

end Extent

/-- A formula of the caller's own that was read. -/
def RestoredFilters (filters : Option String) : Prop :=
  ∀ own ∈ filters, formulaText (.text own) = .valid own

/-- A query for ages that was read. -/
structure AgeQuery.Restored (q : AgeQuery) : Prop where
  years : q.ages.InYears
  target : q.target.Restored
  labels : ∀ labels ∈ q.availableAgeRanges, ageLabels (.ofTexts labels) = .valid labels
  filters : RestoredFilters q.additionalFilters
  extent : q.extent.Restored

theorem AgeQuery.read_restored (args : Value) : (read args).Every Restored := by
  refine fromDictionary_every _ fun entries _ => withAges_every ?_
  have labels : Restores ageLabels Value.ofTexts := texts_restores text_restores 0 Limits.ageRanges
  refine Every.seq (Every.seq (Every.seq (.seq_any _
    (Every.map (Target.read_restored entries) ?_))
    (given_restores labels entries .availableAgeRanges))
    (given_restores (textUpTo_restores _) entries .additionalFilters))
    (Extent.read_restored entries)
  intro target h field labels known filters own extent limited ages years
  exact ⟨years, h, known, own, limited⟩

/-- A query for options that was read. -/
structure SelectQuery.Restored (q : SelectQuery) : Prop where
  target : q.target.Restored
  field : Intake.fieldName (.text q.fieldName) = .valid q.fieldName
  values : optionList 1 (.ofTexts q.values) = .valid q.values
  options : ∀ options ∈ q.availableOptions, optionList 0 (.ofTexts options) = .valid options
  filters : RestoredFilters q.additionalFilters
  extent : q.extent.Restored

theorem SelectQuery.read_restored (args : Value) : (read args).Every Restored := by
  refine fromDictionary_every _ fun entries _ => ?_
  have options (low : Nat) : Restores (optionList low) Value.ofTexts :=
    texts_restores (textUpTo_restores _) low Limits.values
  refine Every.seq (Every.seq (.seq_any _ <| Every.seq (Every.seq (.seq_any _ <| Every.seq
    (Every.map (Target.read_restored entries) ?_)
    (required_any .fieldName (name_restores "Field"))) (required_any .values (options 1)))
    (given_restores (options 0) entries .availableOptions))
    (given_restores (textUpTo_restores _) entries .additionalFilters))
    (Extent.read_restored entries)
  intro target h field named _ values listed options known _ filters own extent limited
  exact ⟨h, named, listed, known, own, limited⟩

/-- A query of a few conditions is read again where its parts are. -/
theorem SmartQuery.read_again {q : SmartQuery} (target : q.target.Restored)
    (some : 1 ≤ q.conditions.length) (few : q.conditions.length ≤ Limits.conditions)
    (conditions : ∀ k ∈ q.conditions, Condition.read k.arguments.plain = .valid k)
    (extent : q.extent.Restored) (unsorted : q.sort = none) :
    read q.arguments.plain = .valid q := by
  have apart : [Label.baseId, .table, .conditions, .combineWith, .maxRecords, .fields,
      .sort].Pairwise Label.Apart := by decide
  rw [Arguments.plain_eq]
  have held : ∀ arg ∈ q.arguments, arg.1.Holds arg.2 q.arguments.plainEntries :=
    Arguments.holds_plain apart
  obtain ⟨base, held⟩ := List.forall_mem_cons.mp held
  obtain ⟨table, held⟩ := List.forall_mem_cons.mp held
  obtain ⟨wanted, held⟩ := List.forall_mem_cons.mp held
  obtain ⟨how, held⟩ := List.forall_mem_cons.mp held
  obtain ⟨count, held⟩ := List.forall_mem_cons.mp held
  obtain ⟨fields, held⟩ := List.forall_mem_cons.mp held
  obtain ⟨order, -⟩ := List.forall_mem_cons.mp held
  have addressed : Target.read q.arguments.plainEntries = .valid q.target :=
    target.read_again (List.forall_mem_cons.mpr ⟨base, List.forall_mem_singleton.mpr table⟩)
  have limited : Extent.read q.arguments.plainEntries = .valid q.extent :=
    extent.read_again (List.forall_mem_cons.mpr ⟨count, List.forall_mem_singleton.mpr fields⟩)
  have combined : oneOf Combination.names (.text q.combineWith.name) = .valid q.combineWith := by
    cases q.combineWith <;> rfl
  have sorted : SortField.readAll q.arguments.plainEntries = .valid q.sort :=
    order.given (by rw [unsorted]; rfl)
  unfold read fromDictionary
  dsimp only
  rw [addressed, wanted.required rfl (listOf_again some few conditions),
    how.withDefault rfl combined, limited, sorted]
  rfl

end BaseGateway
