import BaseGateway.Request.Basic

/-!
# Requests that look something up

Lists of tables, schemas, listings of records, and single records.
-/

namespace BaseGateway

open Intake

/-- The tables of a base. -/
structure TableListing where
  baseId : Option String

/-- The schema of a table, fetched anew where that is asked for. -/
structure SchemaLookup where
  target : Target
  refresh : Bool

/-- Records of a table. -/
structure RecordListing where
  target : Target
  filterByFormula : Option String
  maxRecords : Option Int
  view : Option String
  fields : Option (List String)
  excludeFields : Option (List String)
  excludeAttachments : Option Bool
  excludeLongText : Option Bool
  preset : Option Preset
  sort : Option (List SortField)

/-- A record of a table. -/
structure RecordTarget where
  target : Target
  recordId : String

namespace TableListing

def read : Value → Checked TableListing :=
  fromDictionary "ListTablesInput" fun entries =>
    TableListing.mk <$> given entries .baseId Intake.baseId

def arguments (r : TableListing) : Arguments := [(.baseId, .ofText? r.baseId)]

end TableListing

namespace SchemaLookup

def read : Value → Checked SchemaLookup :=
  fromDictionary "GetTableSchemaInput" fun entries =>
    SchemaLookup.mk <$> Target.read entries <*> withDefault entries .refresh truth false

def arguments (r : SchemaLookup) : Arguments :=
  r.target.arguments ++ [(.refresh, .bool r.refresh)]

end SchemaLookup

namespace RecordListing

def read : Value → Checked RecordListing :=
  fromDictionary "ListRecordsInput" fun entries =>
    RecordListing.mk <$> Target.read entries <*> given entries .filterByFormula formulaText <*>
      given entries .maxRecords recordCount <*> given entries .view shortText <*>
      given entries .fields Intake.fieldNames <*> given entries .excludeFields fieldNames <*>
      given entries .excludeAttachments truth <*> given entries .excludeLongText truth <*>
      given entries .preset (oneOf Preset.names) <*> SortField.readAll entries

def arguments (r : RecordListing) : Arguments :=
  r.target.arguments ++
    [(.filterByFormula, .ofText? r.filterByFormula), (.maxRecords, .ofInt? r.maxRecords),
     (.view, .ofText? r.view), (.fields, .ofTexts? r.fields),
     (.excludeFields, .ofTexts? r.excludeFields),
     (.excludeAttachments, .ofBool? r.excludeAttachments),
     (.excludeLongText, .ofBool? r.excludeLongText),
     (.preset, .ofText? (r.preset.map Preset.name)), (.sort, .ofSort? r.sort)]

end RecordListing

namespace RecordTarget

/-- The tools that read and delete a record take the same arguments. -/
def read (kind : String) : Value → Checked RecordTarget :=
  fromDictionary kind fun entries =>
    RecordTarget.mk <$> Target.read entries <*> required entries .recordId Intake.recordId

def readForLookup : Value → Checked RecordTarget := read "GetRecordInput"

def readForDeletion : Value → Checked RecordTarget := read "DeleteRecordInput"

def arguments (r : RecordTarget) : Arguments :=
  r.target.arguments ++ [(.recordId, .text r.recordId)]

end RecordTarget

end BaseGateway
