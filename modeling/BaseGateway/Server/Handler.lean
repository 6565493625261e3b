import BaseGateway.Client.Batch
import BaseGateway.Condition.Formula
import BaseGateway.Request.Change
import BaseGateway.Request.Lookup
import BaseGateway.Request.Query
import BaseGateway.Settings.Connection

/-!
# Handlers

What each tool does with its arguments: it reads them, carries out an operation of the client and
returns data that can be written as JSON. Nothing is sent before the arguments are read and, for a
query, its formula is written.
-/

namespace BaseGateway

namespace Handler

variable {τ : Type} [Add τ] [Sub τ] [OfNat τ 0] [LT τ] [DecidableLT τ] [Duration τ]

/-- The request in the arguments of a tool. -/
def request {α : Type} (x : Checked α) : Operation τ α :=
  Operation.ofExcept (Except.orRefused x.request)

/-- A number of things, and the things. -/
def counted (name : String) (items : List Value) : Except Fault Value := do
  return .record [("count", ← Value.count items.length), (name, .list items)]

/-- What was asked, and the records that were found. -/
def found (query : List (String × Value)) (records : List Value) : Except Fault Value := do
  return .record [("query", .record query), ("recordCount", ← Value.count records.length),
    ("records", .list records)]

/-- The records that were written. -/
def written (records : List Value) : Except Fault Value := do
  return .record [("success", .bool true), ("recordCount", ← Value.count records.length),
    ("records", .list records)]

/-- The IDs of the records that were deleted. -/
def deleted (ids : List Value) : Except Fault Value := do
  return .record [("success", .bool true), ("deletedCount", ← Value.count ids.length),
    ("deletedIds", .list ids)]

/-- A formula, and the caller's own formula besides where there is one. -/
def withFilters (formula : Formula) (filters : Option String) : Formula :=
  match filters.filter (!·.isEmpty) with
  | some own => Combination.and.combine [formula, .verbatim own.toList]
  | none => formula

/-- The records that a formula selects. -/
def select (a : Account) (target : Target) (formula : Formula) (extent : Extent)
    (sort : Option (List SortField) := none) : Operation τ (List Value) :=
  a.listRecords target.table target.baseId
    { filter := some formula.text, maxRecords := extent.maxRecords
      fields := extent.fields.getD [], sort := (sort.getD []).map SortField.toValue }

def listBases (a : Account) : Operation τ Value := do
  Operation.ofFault (counted "bases" (← a.listBases))

def listTables (a : Account) (args : Value) : Operation τ Value := do
  let r ← request (TableListing.read args)
  Operation.ofFault (counted "tables" (← a.listTables r.baseId))

def tableSchema (a : Account) (args : Value) : Operation τ Value := do
  let r ← request (SchemaLookup.read args)
  return (← a.tableSchema r.target.table r.target.baseId r.refresh).toValue

/-- Attachments make answers too large for many clients, so the settings may leave them out of a
listing that does not say. -/
def leavesOutAttachments (settings : SettingsFile) (asked : Option Bool) : Logged Bool :=
  match asked with
  | some b => pure b
  | none => do
    return (Settings.get (← Settings.load settings) "exclude_attachments_default").isGiven

def listRecords (settings : SettingsFile) (a : Account) (args : Value) : Operation τ Value := do
  let r ← request (RecordListing.read args)
  let attachments ← Operation.ofLogged (leavesOutAttachments settings r.excludeAttachments)
  return .list (← a.listRecords r.target.table r.target.baseId
    { filter := r.filterByFormula, maxRecords := r.maxRecords, view := r.view
      fields := r.fields.getD []
      exclusions := { fields := r.excludeFields.getD [], attachments
                      longText := r.excludeLongText.getD false
                      preset := r.preset.map Preset.name }
      sort := (r.sort.getD []).map SortField.toValue })

def getRecord (a : Account) (args : Value) : Operation τ Value := do
  let r ← request (RecordTarget.readForLookup args)
  a.getRecord r.target.table r.recordId r.target.baseId

def createRecord (a : Account) (args : Value) : Operation τ Value := do
  let r ← request (RecordCreation.read args)
  a.createRecord r.target.table r.fields r.target.baseId

/-- The handler for a change of one record lacks the definition of its request. -/
def updateRecord : Operation τ Value :=
  throw (.fault (.missingName "UpdateRecordInput"))

def deleteRecord (a : Account) (args : Value) : Operation τ Value := do
  let r ← request (RecordTarget.readForDeletion args)
  let id ← a.deleteRecord r.target.table r.recordId r.target.baseId
  return .record [("success", .bool true), ("deletedId", id)]

def setTableSchema (a : Account) (args : Value) : Operation τ Value := do
  let r ← request (SchemaDefinition.read args)
  let _ ← a.setTableSchema r.target.table (r.fields.map (·.arguments.echo)) r.target.baseId
  return .record [("success", .bool true),
    ("message", .text s!"Schema updated for table: {r.target.table}")]

/-- The formula of a query for ages. -/
def ageFormula (settings : SettingsFile) (q : AgeQuery) : Logged Formula := do
  let labels ← match q.availableAgeRanges with
    | some texts => pure ⟨texts, none⟩
    | none => Settings.ageLabels settings
  let formula ←
    Formula.ofAges (.text q.ageFieldName) (.int q.ages.minAge) (.int q.ages.maxAge) labels
  return withFilters formula q.additionalFilters

def queryByAge (settings : SettingsFile) (a : Account) (args : Value) : Operation τ Value := do
  let q ← request (AgeQuery.read args)
  let formula ← Operation.ofLogged (ageFormula settings q)
  let records ← select a q.target formula q.extent
  Operation.ofFault (found [("minAge", .int q.ages.minAge), ("maxAge", .int q.ages.maxAge),
    ("formula", .text formula.text)] records)

/-- The condition that a query for options is about. -/
def selectCondition (q : SelectQuery) : Condition :=
  .multipleSelect ⟨q.fieldName, q.matchType, q.values, q.availableOptions, q.useFuzzyMatch⟩

def queryByOptions (settings : SettingsFile) (a : Account) (args : Value) :
    Operation τ Value := do
  let q ← request (SelectQuery.read args)
  let formula ← Operation.ofLogged ((selectCondition q).toFormula (Settings.ageLabels settings))
  let formula := withFilters formula q.additionalFilters
  let records ← select a q.target formula q.extent
  Operation.ofFault (found [("fieldName", .text q.fieldName),
    ("matchType", .text q.matchType.name), ("values", .ofTexts q.values),
    ("formula", .text formula.text)] records)

def smartQuery (settings : SettingsFile) (a : Account) (args : Value) : Operation τ Value := do
  let q ← request (SmartQuery.read args)
  let formula ← Operation.ofLogged
    (q.combineWith.ofConditions (Settings.ageLabels settings) q.conditions)
  let records ← select a q.target formula q.extent q.sort
  Operation.ofFault (found [("conditions", .list (q.conditions.map (·.arguments.echo))),
    ("combineWith", .text q.combineWith.name), ("formula", .text formula.text)] records)

def createRecords (a : Account) (args : Value) : Operation τ Value := do
  let r ← request (BatchCreation.read args)
  Operation.ofFault (written (← a.createRecords r.target.table r.records r.target.baseId))

def updateRecords (a : Account) (args : Value) : Operation τ Value := do
  let r ← request (BatchChange.read args)
  let changes := r.updates.map fun u => ⟨u.id, u.fields⟩
  Operation.ofFault (written (← a.updateRecords r.target.table changes r.target.baseId))

def deleteRecords (a : Account) (args : Value) : Operation τ Value := do
  let r ← request (BatchDeletion.read args)
  Operation.ofFault (deleted (← a.deleteRecords r.target.table r.recordIds r.target.baseId))

end Handler

end BaseGateway
