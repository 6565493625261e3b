import BaseGateway.Client.Records

/-!
# Batches

Several records at once. The service takes ten in one call, so that a batch is cut into chunks,
which are sent one after the other; a chunk that fails stops the batch, and what was sent before
stays.
-/

namespace BaseGateway

/-- Cuts a list into pieces of a size, of which only the last may be shorter. -/
def chunks {α : Type} (size : Nat) : List α → List (List α)
  | [] => []
  | x :: xs => (x :: xs.take (size - 1)) :: chunks size (xs.drop (size - 1))
termination_by xs => xs.length
decreasing_by
  simp only [List.length_drop, List.length_cons]
  omega

/-- A change of a batch: the ID of a record and new values for some of its fields. -/
structure Change where
  id : String
  fields : Entries

namespace Account

variable {τ : Type} [Add τ] [Sub τ] [OfNat τ 0] [LT τ] [DecidableLT τ] [Duration τ]

/-- Refuses a batch that is too large. -/
def checkBatch {α : Type} (items : List α) : Operation τ Unit :=
  if Limits.records < items.length then
    throw (.refused (.tooLarge "Batch" Limits.records items.length))
  else return ()

/-- Carries out an operation on each chunk in turn and puts the results together. -/
def inChunks {α β : Type} (step : List α → Operation τ (List β)) (items : List α) :
    Operation τ (List β) := do
  return (← (chunks Limits.batch items).mapM step).flatten

/-- Creates records. -/
def createRecords (a : Account) (table : String) (records : List Entries)
    (base : Option String) : Operation τ (List Value) := do
  checkBatch records
  let base ← a.baseFor base
  inChunks (fun chunk => do
    let bodies ← chunk.mapM fun fields => do
      return Value.record [("fields", .dictionary (← a.converted table base fields))]
    let data ← a.request "POST" (tablePath base table) .absent
      (some (.record [("records", .list bodies)]))
    Operation.ofFault (recordsIn data)) records

/-- Changes records. -/
def updateRecords (a : Account) (table : String) (changes : List Change)
    (base : Option String) : Operation τ (List Value) := do
  checkBatch changes
  let base ← a.baseFor base
  inChunks (fun chunk => do
    let bodies ← chunk.mapM fun change => do
      let fields ← a.converted table base change.fields
      return Value.record [("id", .text change.id), ("fields", .dictionary fields)]
    let data ← a.request "PATCH" (tablePath base table) .absent
      (some (.record [("records", .list bodies)]))
    Operation.ofFault (recordsIn data)) changes

/-- The IDs of the records that an answer calls deleted, or of which it does not say. -/
def deletedIn (data : Value) : Except Fault (List Value) := do
  let records ← data.itemsUnder "records"
  let found ← records.mapM fun record => do
    if (← record.getOr "deleted" (.bool true)).isGiven then return some (← record.item "id")
    else return none
  return found.filterMap id

/-- Deletes records and returns their IDs. -/
def deleteRecords (a : Account) (table : String) (records : List String)
    (base : Option String) : Operation τ (List Value) := do
  checkBatch records
  let base ← a.baseFor base
  inChunks (fun chunk => do
    let query := Query.pairs (chunk.map fun record => ("records[]", .text record))
    let data ← a.request "DELETE" (tablePath base table) query
    Operation.ofFault (deletedIn data)) records

end Account

end BaseGateway
