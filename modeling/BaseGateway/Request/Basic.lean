import BaseGateway.Condition.Basic

/-!
# What tools are asked for

The parts that the requests to several tools share: the table they are about, the order of the
records, and how many records and which of their fields to return.
-/

namespace BaseGateway

/-- A table of a base; without a base, of the one that is set up. -/
structure Target where
  baseId : Option String
  table : String

inductive Direction where
  | ascending
  | descending
  deriving DecidableEq, Repr

/-- A field to sort by. -/
structure SortField where
  field : String
  direction : Direction

/-- A choice of fields with a name of its own. -/
inductive Preset where
  | minimal
  | contact
  | summary
  | full
  deriving DecidableEq, Repr

/-- How many records of a query to return, and which of their fields. -/
structure Extent where
  maxRecords : Option Int
  fields : Option (List String)

namespace Direction

def names : List (String × Direction) := [("asc", .ascending), ("desc", .descending)]

def name : Direction → String
  | .ascending => "asc"
  | .descending => "desc"

end Direction

namespace Preset

def names : List (String × Preset) :=
  [("minimal", .minimal), ("contact", .contact), ("summary", .summary), ("full", .full)]

def name : Preset → String
  | .minimal => "minimal"
  | .contact => "contact"
  | .summary => "summary"
  | .full => "full"

end Preset

def Combination.names : List (String × Combination) := [("AND", .and), ("OR", .or)]

def Combination.name : Combination → String
  | .and => "AND"
  | .or => "OR"

/-- A number of records. -/
def Intake.recordCount : Value → Checked Int := positiveUpTo Limits.records

def Intake.fieldNames : Value → Checked (List String) := listOf fieldName 0 Limits.fields

/-- Texts, or null where there are none. -/
def Value.ofTexts? (texts : Option (List String)) : Value := (texts.map .ofTexts).getD .null

def Value.ofInt? (n : Option Int) : Value := (n.map .int).getD .null

def Value.ofBool? (b : Option Bool) : Value := (b.map .bool).getD .null

open Intake

namespace Target

def read (entries : Entries) : Checked Target :=
  Target.mk <$> given entries .baseId Intake.baseId <*> required entries .table tableName

def arguments (t : Target) : Arguments :=
  [(.baseId, .ofText? t.baseId), (.table, .text t.table)]

end Target

namespace SortField

def read : Value → Checked SortField :=
  fromDictionary "SortField" fun entries =>
    SortField.mk <$> required entries .field fieldName <*>
      withDefault entries .direction (oneOf Direction.names) .ascending

def toValue (s : SortField) : Value :=
  .record [("field", .text s.field), ("direction", .text s.direction.name)]

/-- The order of the records, if one is given. -/
def readAll (entries : Entries) : Checked (Option (List SortField)) :=
  given entries .sort (listOf read 0 Limits.sortFields)

end SortField

/-- The fields to sort by, or null where there are none. -/
def Value.ofSort? (sort : Option (List SortField)) : Value :=
  (sort.map fun fields => Value.list (fields.map SortField.toValue)).getD .null

namespace Extent

def read (entries : Entries) : Checked Extent :=
  Extent.mk <$> given entries .maxRecords recordCount <*> given entries .fields Intake.fieldNames

def arguments (e : Extent) : Arguments :=
  [(.maxRecords, .ofInt? e.maxRecords), (.fields, .ofTexts? e.fields)]

end Extent

/-- The outcome of reading a request. -/
def Checked.request {α : Type} (x : Checked α) : Except Refusal α :=
  x.toExcept "Invalid tool arguments"

end BaseGateway
