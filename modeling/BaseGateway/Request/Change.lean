import BaseGateway.Field.Kind
import BaseGateway.Request.Basic

/-!
# Requests that change something

New and changed records, one or a batch of them, and field types that are set by hand.
-/

namespace BaseGateway

open Intake

structure RecordCreation where
  target : Target
  fields : Entries

/-- New values for some fields of a record. -/
structure RecordChange where
  target : Target
  recordId : String
  fields : Entries

/-- A field whose type is set by hand. -/
structure FieldDefinition where
  id : Option String
  name : String
  type : String
  options : Option Entries

structure SchemaDefinition where
  target : Target
  fields : List FieldDefinition

structure BatchCreation where
  target : Target
  records : List Entries

/-- One record of a batch of changes. -/
structure RecordUpdate where
  id : String
  fields : Entries

structure BatchChange where
  target : Target
  updates : List RecordUpdate

structure BatchDeletion where
  target : Target
  recordIds : List String

/-- A list that is neither empty nor longer than one request to the service takes. -/
def Intake.batchOf {α : Type} (part : Value → Checked α) : Value → Checked (List α) :=
  listOf part 1 Limits.batch

namespace RecordCreation

def read : Value → Checked RecordCreation :=
  fromDictionary "CreateRecordInput" fun entries =>
    RecordCreation.mk <$> Target.read entries <*> required entries .fields fieldMap

def arguments (r : RecordCreation) : Arguments :=
  r.target.arguments ++ [(.fields, .dictionary r.fields)]

end RecordCreation

namespace RecordChange

def read : Value → Checked RecordChange :=
  fromDictionary "UpdateRecordInput" fun entries =>
    RecordChange.mk <$> Target.read entries <*> required entries .recordId Intake.recordId <*>
      required entries .fields fieldMap

def arguments (r : RecordChange) : Arguments :=
  r.target.arguments ++ [(.recordId, .text r.recordId), (.fields, .dictionary r.fields)]

end RecordChange

namespace FieldDefinition

/-- The name of a known type of field. -/
def fieldType (v : Value) : Checked String :=
  (text v).check fun s =>
    if (FieldKind.ofName? s).isSome then .valid s
    else .issue s!"Value error, Unknown field type: {s}"

def read : Value → Checked FieldDefinition :=
  fromDictionary "FieldDefinition" fun entries =>
    FieldDefinition.mk <$> given entries .id text <*> required entries .name fieldName <*>
      required entries .type fieldType <*> given entries .options (dictionary text)

def arguments (f : FieldDefinition) : Arguments :=
  [(.id, .ofText? f.id), (.name, .text f.name), (.type, .text f.type),
   (.options, (f.options.map Value.dictionary).getD .null)]

end FieldDefinition

namespace SchemaDefinition

def read : Value → Checked SchemaDefinition :=
  fromDictionary "SetTableSchemaInput" fun entries =>
    SchemaDefinition.mk <$> Target.read entries <*>
      required entries .fields (listOf FieldDefinition.read 1 Limits.fields)

def arguments (r : SchemaDefinition) : Arguments :=
  r.target.arguments ++ [(.fields, .list (r.fields.map fun f => f.arguments.plain))]

end SchemaDefinition

namespace BatchCreation

def read : Value → Checked BatchCreation :=
  fromDictionary "BatchCreateRecordsInput" fun entries =>
    BatchCreation.mk <$> Target.read entries <*> required entries .records (batchOf fieldMap)

def arguments (r : BatchCreation) : Arguments :=
  r.target.arguments ++ [(.records, .list (r.records.map .dictionary))]

end BatchCreation

namespace RecordUpdate

def read : Value → Checked RecordUpdate :=
  fromDictionary "RecordUpdate" fun entries =>
    RecordUpdate.mk <$> required entries .id Intake.recordId <*> required entries .fields fieldMap

def toValue (u : RecordUpdate) : Value :=
  .record [("id", .text u.id), ("fields", .dictionary u.fields)]

end RecordUpdate

namespace BatchChange

def read : Value → Checked BatchChange :=
  fromDictionary "BatchUpdateRecordsInput" fun entries =>
    BatchChange.mk <$> Target.read entries <*>
      required entries .updates (batchOf RecordUpdate.read)

def arguments (r : BatchChange) : Arguments :=
  r.target.arguments ++ [(.updates, .list (r.updates.map RecordUpdate.toValue))]

end BatchChange

namespace BatchDeletion

def read : Value → Checked BatchDeletion :=
  fromDictionary "BatchDeleteRecordsInput" fun entries =>
    BatchDeletion.mk <$> Target.read entries <*>
      required entries .recordIds (batchOf Intake.recordId)

def arguments (r : BatchDeletion) : Arguments :=
  r.target.arguments ++ [(.recordIds, .ofTexts r.recordIds)]

end BatchDeletion

end BaseGateway
