import BaseGateway.Proofs.Intake.Bounds
import BaseGateway.Proofs.Request
import BaseGateway.Request.Lookup

/-!
# Requests are within their bounds

Whatever the arguments are, a request that was read from them names bases and records by IDs of the
right form, changes at most as many fields and records as the service takes in one request, and
limits its records by the number that was given, which lies between one and a thousand.
-/

namespace BaseGateway

open Checked Intake

/-- A base that is named is named by an ID. -/
def NamesBase (base : Option String) : Prop := ∀ b ∈ base, HasForm "app" b

/-- The value that is given for the number of records. -/
def GivesCount (args v : Value) : Prop :=
  ∃ entries key, args = .dictionary entries ∧ Label.maxRecords.find? entries = some (key, v) ∧
    v.isNull = false

/-- The number of records is what the value that is given for it stands for. -/
def Counts (args : Value) (count : Option Int) : Prop :=
  ∀ v, GivesCount args v → ∃ n, count = some n ∧ recordCount v = .valid n

theorem Intake.given_counts (entries : Entries) :
    (given entries .maxRecords recordCount).Every (Counts (.dictionary entries)) := by
  intro count read v asked
  obtain ⟨entries', key, same, found, solid⟩ := asked
  obtain rfl := Value.dictionary.inj same
  exact given_read entries .maxRecords recordCount count read key v found solid

/-- A batch that was read fits into one request. -/
theorem Intake.batchOf_length {α : Type} (part : Value → Checked α) (v : Value) :
    (batchOf part v).Every fun items => 1 ≤ items.length ∧ items.length ≤ 10 :=
  listOf_length part 1 Limits.batch v

theorem Intake.baseId_named (entries : Entries) :
    (given entries .baseId Intake.baseId).Every NamesBase :=
  given_any entries .baseId (id_form "app")

namespace Target

/-- A table of a base that is named by an ID if it is named. -/
def IsNamed (t : Target) : Prop := NamesBase t.baseId

theorem read_isNamed (entries : Entries) : (read entries).Every IsNamed :=
  .seq_any _ (Every.map (baseId_named entries) fun _ named _ => named)

end Target

theorem Extent.read_counts (entries : Entries) :
    (read entries).Every fun e => Counts (.dictionary entries) e.maxRecords :=
  .seq_any _ (Every.map (given_counts entries) fun _ counts _ => counts)

theorem TableListing.read_named (args : Value) :
    (read args).Every fun r => NamesBase r.baseId :=
  fromDictionary_every _ fun entries _ => Every.map (baseId_named entries) fun _ named => named

theorem SchemaLookup.read_named (args : Value) : (read args).Every fun r => r.target.IsNamed :=
  fromDictionary_every _ fun entries _ =>
    .seq_any _ (Every.map (Target.read_isNamed entries) fun _ named _ => named)

theorem RecordTarget.read_bounds (kind : String) (args : Value) :
    (read kind args).Every fun r => r.target.IsNamed ∧ HasForm "rec" r.recordId := by
  refine fromDictionary_every _ fun entries _ => ?_
  exact Every.seq (Every.map (Target.read_isNamed entries) fun _ named _ form => ⟨named, form⟩)
    (required_any .recordId (id_form "rec"))

theorem RecordCreation.read_bounds (args : Value) :
    (read args).Every fun r =>
      r.target.IsNamed ∧ 1 ≤ r.fields.length ∧ r.fields.length ≤ 100 := by
  refine fromDictionary_every _ fun entries _ => ?_
  exact Every.seq (Every.map (Target.read_isNamed entries) fun _ named _ length => ⟨named, length⟩)
    (required_any .fields fieldMap_length)

theorem BatchCreation.read_bounds (args : Value) :
    (read args).Every fun r =>
      r.target.IsNamed ∧ 1 ≤ r.records.length ∧ r.records.length ≤ 10 := by
  refine fromDictionary_every _ fun entries _ => ?_
  exact Every.seq (Every.map (Target.read_isNamed entries) fun _ named _ length => ⟨named, length⟩)
    (required_any .records (batchOf_length fieldMap))

theorem RecordUpdate.read_form (v : Value) : (read v).Every fun u => HasForm "rec" u.id :=
  fromDictionary_every _ fun _ _ =>
    .seq_any _ (Every.map (required_any .id (id_form "rec")) fun _ form _ => form)

theorem BatchChange.read_bounds (args : Value) :
    (read args).Every fun r => r.target.IsNamed ∧ (1 ≤ r.updates.length ∧ r.updates.length ≤ 10) ∧
      ∀ u ∈ r.updates, HasForm "rec" u.id := by
  refine fromDictionary_every _ fun entries _ => ?_
  have updates (v : Value) := (batchOf_length RecordUpdate.read v).and
    (listOf_every 1 Limits.batch fun _ _ w _ => RecordUpdate.read_form w)
  exact Every.seq (Every.map (Target.read_isNamed entries) fun _ named _ given => ⟨named, given⟩)
    (required_any .updates updates)

theorem BatchDeletion.read_bounds (args : Value) :
    (read args).Every fun r =>
      r.target.IsNamed ∧ (1 ≤ r.recordIds.length ∧ r.recordIds.length ≤ 10) ∧
        ∀ id ∈ r.recordIds, HasForm "rec" id := by
  refine fromDictionary_every _ fun entries _ => ?_
  have ids (v : Value) := (batchOf_length Intake.recordId v).and
    (listOf_every 1 Limits.batch fun _ _ w _ => id_form "rec" w)
  exact Every.seq (Every.map (Target.read_isNamed entries) fun _ named _ given => ⟨named, given⟩)
    (required_any .recordIds ids)

theorem RecordListing.read_bounds (args : Value) :
    (read args).Every fun r => r.target.IsNamed ∧ Counts args r.maxRecords := by
  refine fromDictionary_every _ fun entries same => ?_
  rw [same]
  refine .seq_any _ <| .seq_any _ <| .seq_any _ <| .seq_any _ <| .seq_any _ <| .seq_any _ <|
    .seq_any _ <| Every.seq (.seq_any _ <| Every.map (Target.read_isNamed entries) ?_)
      (given_counts entries)
  intro target named filter count counts view fields left attachments longText preset sort
  exact ⟨named, counts⟩

theorem AgeQuery.read_bounds (args : Value) :
    (read args).Every fun q => q.target.IsNamed ∧ Counts args q.extent.maxRecords := by
  refine fromDictionary_every _ fun entries same => withAges_every ?_
  rw [same]
  refine Every.seq (.seq_any _ <| .seq_any _ <| .seq_any _ <|
    Every.map (Target.read_isNamed entries) ?_) (Extent.read_counts entries)
  intro target named field labels filters extent counts ages years
  exact ⟨named, counts⟩

theorem SelectQuery.read_bounds (args : Value) :
    (read args).Every fun q => q.target.IsNamed ∧ Counts args q.extent.maxRecords := by
  refine fromDictionary_every _ fun entries same => ?_
  rw [same]
  refine Every.seq (.seq_any _ <| .seq_any _ <| .seq_any _ <| .seq_any _ <| .seq_any _ <|
    .seq_any _ <| Every.map (Target.read_isNamed entries) ?_) (Extent.read_counts entries)
  intro target named field how values options fuzzy filters extent counts
  exact ⟨named, counts⟩

theorem SmartQuery.read_bounds (args : Value) :
    (read args).Every fun q => q.target.IsNamed ∧ Counts args q.extent.maxRecords := by
  refine fromDictionary_every _ fun entries same => ?_
  rw [same]
  refine .seq_any _ <| Every.seq (.seq_any _ <| .seq_any _ <|
    Every.map (Target.read_isNamed entries) ?_) (Extent.read_counts entries)
  intro target named conditions how extent counts sort
  exact ⟨named, counts⟩

end BaseGateway
