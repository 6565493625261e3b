import BaseGateway.Client.Metadata
import BaseGateway.Field.Conversion
import BaseGateway.Field.Selection
import BaseGateway.Limits

/-!
# Records

Listing, reading and changing the records of a table. A listing goes on from page to page until it
has as many records as were asked for. Values are converted to the types of their fields before they
are sent.
-/

namespace BaseGateway

/-- What a listing asks for. -/
structure Listing where
  filter : Option String := none
  maxRecords : Option Int := none
  pageSize : Option Int := none
  view : Option String := none
  /-- The fields that are wanted; they count more than what is left out. -/
  fields : List String := []
  exclusions : Exclusions := {}
  /-- The fields to sort by, each a dictionary with a field and perhaps a direction. -/
  sort : List Value := []

/-- A record as it is shown. -/
def shownRecord (record : Value) : Except Fault Value := do
  return .record [("id", ← record.get "id"), ("fields", ← record.getOr "fields" (.dictionary [])),
    ("createdTime", ← record.get "createdTime")]

/-- The records in an answer. -/
def recordsIn (data : Value) : Except Fault (List Value) := do
  (← data.itemsUnder "records").mapM shownRecord

/-- The first items up to a number of them; below nought, all but as many of the last ones. -/
def takeCount {α : Type} (count : Int) (items : List α) : List α :=
  if 0 ≤ count then items.take count.toNat else items.take (items.length - count.natAbs)

namespace Listing

/-- Numbers other than nought count as given. -/
def given (n : Option Int) : Option Int := n.filter (· != 0)

/-- The parameters for a field to sort by. -/
def sortParameters (index : Nat) (field : Value) : Except Fault (List (String × Value)) := do
  return [(s!"sort[{index}][field]", ← field.item "field"),
    (s!"sort[{index}][direction]", ← field.getOr "direction" (.text "asc"))]

/-- The parameters of the first page, given the fields to ask for. -/
def parameters (l : Listing) (fields : List Value) : Except Fault (List (String × Value)) := do
  let text (name : String) (s : Option String) : List (String × Value) :=
    ((s.filter (!·.isEmpty)).map fun s => (name, Value.text s)).toList
  let count (name : String) (n : Option Int) : List (String × Value) :=
    ((given n).map fun n => (name, Value.int n)).toList
  let sort ← l.sort.zipIdx.mapM fun (field, index) => sortParameters index field
  return text "filterByFormula" l.filter ++ count "maxRecords" l.maxRecords ++
    count "pageSize" l.pageSize ++ text "view" l.view ++ sort.flatten ++
    fields.map fun field => ("fields[]", field)

/-- Are there enough records? -/
def isEnough (l : Listing) (count : Nat) : Bool :=
  match given l.maxRecords with
  | some n => n ≤ count
  | none => false

/-- No more records than were asked for. -/
def cut (l : Listing) (records : List Value) : List Value :=
  match given l.maxRecords with
  | some n => takeCount n records
  | none => records

end Listing

namespace Account

variable {τ : Type} [Add τ] [Sub τ] [OfNat τ 0] [LT τ] [DecidableLT τ] [Duration τ]

/-- The fields to ask for when none are wanted in particular; none when all of them are. -/
def selectedFields (a : Account) (table base : String) (e : Exclusions) :
    Operation τ (List Value) := do
  if !e.isGiven then return []
  else
    let schema ← a.schemaOf base table
    let names ← Operation.ofFault (schema.fields.mapM (Value.item · "name"))
    if names.isEmpty then return []
    else return (← Operation.ofFault (selectFields names [] e none)).getD []

/-- The records from the page of an offset on, those of the earlier pages being `known` many. No
more pages are asked for than the network has replies for. -/
def listFrom (a : Account) (path : String) (l : Listing) (parameters : List (String × Value)) :
    Nat → Nat → Value → Operation τ (List Value)
  | 0, _, _ => return []
  | pages + 1, known, offset => do
    let page := parameters ++ if offset.isGiven then [("offset", offset)] else []
    let data ← a.request "GET" path (.pairs page)
    let found ← Operation.ofFault (recordsIn data)
    let next ← Operation.ofFault (data.get "offset")
    let count := known + found.length
    if !next.isGiven || l.isEnough count then return found
    else return found ++ (← a.listFrom path l parameters pages count next)

/-- The records of a table. -/
def listRecords (a : Account) (table : String) (base : Option String) (l : Listing) :
    Operation τ (List Value) := do
  let base ← a.baseFor base
  let fields ← if l.fields.isEmpty then a.selectedFields table base l.exclusions
    else pure (l.fields.map .text)
  let parameters ← Operation.ofFault (l.parameters fields)
  let pages := (← get).replies.length + 1
  return l.cut (← a.listFrom (tablePath base table) l parameters pages 0 .null)

/-- A record. -/
def getRecord (a : Account) (table record : String) (base : Option String) :
    Operation τ Value := do
  let base ← a.baseFor base
  let data ← a.request "GET" (tablePath base table record)
  Operation.ofFault (shownRecord data)

/-- Values as the fields of a table take them. -/
def converted (a : Account) (table base : String) (fields : Entries) : Operation τ Entries := do
  let schema ← a.schemaOf base table
  Operation.ofExcept (convertFields fields schema.fields)

/-- Creates a record. -/
def createRecord (a : Account) (table : String) (fields : Entries) (base : Option String) :
    Operation τ Value := do
  let base ← a.baseFor base
  let fields ← a.converted table base fields
  let body := Value.record [("fields", .dictionary fields)]
  let data ← a.request "POST" (tablePath base table) .absent (some body)
  Operation.ofFault (shownRecord data)

/-- Changes some fields of a record. -/
def updateRecord (a : Account) (table record : String) (fields : Entries)
    (base : Option String) : Operation τ Value := do
  let base ← a.baseFor base
  let fields ← a.converted table base fields
  let body := Value.record [("fields", .dictionary fields)]
  let data ← a.request "PATCH" (tablePath base table record) .absent (some body)
  Operation.ofFault (shownRecord data)

/-- Deletes a record and returns its ID. -/
def deleteRecord (a : Account) (table record : String) (base : Option String) :
    Operation τ Value := do
  let base ← a.baseFor base
  let data ← a.request "DELETE" (tablePath base table record)
  Operation.ofFault (data.getOr "id" (.text record))

end Account

end BaseGateway
