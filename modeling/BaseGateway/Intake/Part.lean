import BaseGateway.Intake.Scalar
import BaseGateway.Limits

/-!
# Parts of arguments

Names and IDs, lists, and maps of fields. The items of a list and the keys of a dictionary are all
looked at, and every issue with one of them is reported.
-/

namespace BaseGateway.Intake

/-- Names of tables and fields hold letters, digits, blanks and a few marks. -/
def isNameChar (c : Char) : Bool :=
  c.isAlphanum || Text.isBlank c || "_-()#+.,'!?&@$%".toList.contains c

/-- The name of a table or a field. -/
def name (kind : String) (v : Value) : Checked String :=
  (text v).check fun s =>
    if s.isEmpty then .issue s!"Value error, {kind} name cannot be empty"
    else if Limits.textLength < s.length then
      .issue s!"Value error, {kind} name too long (max {Limits.textLength})"
    else if !s.toList.all isNameChar then
      .issue s!"Value error, {kind} name contains potentially dangerous characters"
    else .valid s

def tableName : Value → Checked String := name "Table"

def fieldName : Value → Checked String := name "Field"

/-- Three letters that tell the kind of an ID, and fourteen letters or digits. -/
def isId (kind : List Char) (s : List Char) : Bool :=
  kind.isPrefixOf s && (s.drop kind.length).length == 14 &&
    (s.drop kind.length).all Char.isAlphanum

def id (kind : String) (v : Value) : Checked String :=
  (text v).check fun s =>
    if isId kind.toList s.toList then .valid s
    else
      let shape := "^" ++ kind ++ "[a-zA-Z0-9]\x7b14\x7d$"
      .issue s!"String should match pattern '{shape}'"

def baseId : Value → Checked String := id "app"

def recordId : Value → Checked String := id "rec"

/-- A short text. -/
def shortText : Value → Checked String := textUpTo Limits.textLength

/-- The text of a formula, which is not looked into. -/
def formulaText : Value → Checked String := textUpTo Limits.formulaLength

/-- Null, or a part. -/
def optional {α : Type} (part : Value → Checked α) (v : Value) : Checked (Option α) :=
  if v.isNull then .valid none else (part v).map some

/-- Every item of a list, its index being its key. -/
def items {α : Type} (part : Value → Checked α) (index : Nat) : List Value → Checked (List α)
  | [] => pure []
  | v :: rest => List.cons <$> (part v).under (toString index) <*> items part (index + 1) rest

/-- A list of at least `low` items and, where there is a limit, at most that many. A list that is
too long is not looked into. -/
def listOf {α : Type} (part : Value → Checked α) (low : Nat) (high : Nat) (v : Value) :
    Checked (List α) :=
  match v with
  | .list all =>
    let count := all.length
    if high < count then
      .issue s!"List should have at most {high} items after validation, not {count}"
    else
      (items part 0 all).check fun found =>
        if count < low then
          .issue s!"List should have at least {low} item after validation, not {count}"
        else .valid found
  | _ => .issue "Input should be a valid list"

/-- A key as it is shown in a path. -/
def keyText (key : Value) : String :=
  match key with
  | .text s => s
  | v => v.quoted?.getD s!"<unprintable {v.kindName} object>"

/-- The keys of a dictionary. -/
def keys (part : Value → Checked String) : Entries → Checked Unit
  | [] => pure ()
  | (key, _) :: rest =>
    (fun _ _ => ()) <$> ((part key).under "[key]").under (keyText key) <*> keys part rest

/-- A dictionary whose keys are of one kind. -/
def dictionary (part : Value → Checked String) (v : Value) : Checked Entries :=
  match v with
  | .dictionary entries => (keys part entries).map fun _ => entries
  | _ => .issue "Input should be a valid dictionary"

/-- The values for the fields of a record, under their names. -/
def fieldMap (v : Value) : Checked Entries :=
  (dictionary fieldName v).check fun entries =>
    if entries.isEmpty then .issue "Value error, At least one field must be provided"
    else if Limits.fields < entries.length then
      .issue s!"Value error, Too many fields (max {Limits.fields})"
    else .valid entries

end BaseGateway.Intake
