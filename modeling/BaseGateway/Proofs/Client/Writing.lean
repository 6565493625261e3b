import BaseGateway.Client.Batch

/-!
# Writing records with a conversion of one's own

The operations that write records convert the values first. Here the conversion is a parameter; the
operations of the client are those that convert by the schema of the table (`createRecord_eq` and
its like).
-/

namespace BaseGateway.Account

variable {τ : Type} [Add τ] [Sub τ] [OfNat τ 0] [LT τ] [DecidableLT τ] [Duration τ]

/-- How values for a table of a base are converted. -/
abbrev Conversion (τ : Type) := String → String → Entries → Operation τ Entries

variable (a : Account) (convert : Conversion τ) (table : String)

def createRecordBy (fields : Entries) (base : Option String) : Operation τ Value := do
  let base ← a.baseFor base
  let fields ← convert table base fields
  let body := Value.record [("fields", .dictionary fields)]
  let data ← a.request "POST" (tablePath base table) .absent (some body)
  Operation.ofFault (shownRecord data)

def updateRecordBy (record : String) (fields : Entries) (base : Option String) :
    Operation τ Value := do
  let base ← a.baseFor base
  let fields ← convert table base fields
  let body := Value.record [("fields", .dictionary fields)]
  let data ← a.request "PATCH" (tablePath base table record) .absent (some body)
  Operation.ofFault (shownRecord data)

/-- The body of a new record in a batch. -/
def newBody (base : String) (fields : Entries) : Operation τ Value := do
  return .record [("fields", .dictionary (← convert table base fields))]

/-- The body of a change in a batch. -/
def changeBody (base : String) (change : Change) : Operation τ Value := do
  let fields ← convert table base change.fields
  return .record [("id", .text change.id), ("fields", .dictionary fields)]

/-- Sends the bodies of a chunk in one request. -/
def sendChunk {α : Type} (method : String) (base : String) (body : α → Operation τ Value)
    (chunk : List α) : Operation τ (List Value) := do
  let bodies ← chunk.mapM body
  let data ← a.request method (tablePath base table) .absent
    (some (.record [("records", .list bodies)]))
  Operation.ofFault (recordsIn data)

def createRecordsBy (records : List Entries) (base : Option String) :
    Operation τ (List Value) := do
  checkBatch records
  let base ← a.baseFor base
  inChunks (a.sendChunk table "POST" base (newBody convert table base)) records

def updateRecordsBy (changes : List Change) (base : Option String) :
    Operation τ (List Value) := do
  checkBatch changes
  let base ← a.baseFor base
  inChunks (a.sendChunk table "PATCH" base (changeBody convert table base)) changes

theorem createRecord_eq (fields : Entries) (base : Option String) :
    (a.createRecord table fields base : Operation τ Value) =
      a.createRecordBy a.converted table fields base := rfl

theorem updateRecord_eq (record : String) (fields : Entries) (base : Option String) :
    (a.updateRecord table record fields base : Operation τ Value) =
      a.updateRecordBy a.converted table record fields base := rfl

theorem createRecords_eq (records : List Entries) (base : Option String) :
    (a.createRecords table records base : Operation τ (List Value)) =
      a.createRecordsBy a.converted table records base := rfl

theorem updateRecords_eq (changes : List Change) (base : Option String) :
    (a.updateRecords table changes base : Operation τ (List Value)) =
      a.updateRecordsBy a.converted table changes base := rfl

end BaseGateway.Account
