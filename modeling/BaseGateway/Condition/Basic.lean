import BaseGateway.Intake.Argument
import BaseGateway.Formula.Choice

/-!
# Conditions of a query

The kinds of conditions that a query is made of, and how they are read from the arguments of a tool.
Every condition names its kind under `type`; the kind decides which other arguments are read.
-/

namespace BaseGateway

/-- An interval of ages, both ends included. -/
structure AgeBounds where
  minAge : Int
  maxAge : Int
  ordered : minAge ≤ maxAge

namespace AgeBounds

/-- An interval needs its ends in order. -/
def of (minAge maxAge : Int) : Checked AgeBounds :=
  if h : minAge ≤ maxAge then .valid ⟨minAge, maxAge, h⟩
  else .issue "Value error, minAge must be less than or equal to maxAge"

def arguments (b : AgeBounds) : Arguments := [(.minAge, .int b.minAge), (.maxAge, .int b.maxAge)]

end AgeBounds

/-- The field holds the label of an age bucket that overlaps the interval; without labels, one of
those that are set up. -/
structure AgeCondition where
  ages : AgeBounds
  fieldName : String
  availableOptions : Option (List String)

/-- The field holds some, all or none of the values. -/
structure SelectCondition where
  fieldName : String
  matchType : Match
  values : List String
  availableOptions : Option (List String)
  useFuzzyMatch : Bool

/-- The field holds a number between the bounds that are given. -/
structure NumberCondition where
  fieldName : String
  lowest : Option Float
  highest : Option Float

/-- The field holds a date between the bounds that are given. -/
structure DateCondition where
  fieldName : String
  startDate : Option String
  endDate : Option String

inductive Condition where
  | ageRange (c : AgeCondition)
  | multipleSelect (c : SelectCondition)
  | numberRange (c : NumberCondition)
  | dateRange (c : DateCondition)
  /-- A formula of the caller's own. -/
  | customFormula (formula : String)

/-- The names of the ways to match. -/
def Match.names : List (String × Match) :=
  [("hasAny", .hasAny), ("hasAll", .hasAll), ("hasNone", .hasNone)]

def Match.name : Match → String
  | .hasAny => "hasAny"
  | .hasAll => "hasAll"
  | .hasNone => "hasNone"

namespace Intake

/-- An age in years. -/
def age : Value → Checked Int := integerIn 0 150

/-- The kind of a condition. -/
def kind (name : String) : Value → Checked Unit := oneOf [(name, ())]

/-- Labels of age buckets. -/
def ageLabels : Value → Checked (List String) := listOf text 0 Limits.ageRanges

/-- Options of a field, and values to look for. -/
def optionList (low : Nat) : Value → Checked (List String) := listOf shortText low Limits.values

/-- The arguments of an interval of ages and others; the order of the ends matters once nothing else
is wrong. -/
def withAges {α : Type} (entries : Entries) (rest : Checked (AgeBounds → α)) : Checked α :=
  let all := (fun low high build => (low, high, build)) <$> required entries .minAge age <*>
    required entries .maxAge age <*> rest
  all.check fun (low, high, build) => (AgeBounds.of low high).map build

end Intake

namespace Condition

open Intake

def readAgeRange (entries : Entries) : Checked Condition :=
  withAges entries <|
    (fun _ field options ages => .ageRange ⟨ages, field, options⟩) <$>
      required entries .type (kind "ageRange") <*> required entries .fieldName fieldName <*>
      given entries .availableOptions ageLabels

def readMultipleSelect (entries : Entries) : Checked Condition :=
  (fun _ field how values options fuzzy => .multipleSelect ⟨field, how, values, options, fuzzy⟩) <$>
    required entries .type (kind "multipleSelect") <*> required entries .fieldName fieldName <*>
    required entries .matchType (oneOf Match.names) <*>
    required entries .values (optionList 1) <*>
    given entries .availableOptions (optionList 0) <*>
    withDefault entries .useFuzzyMatch truth true

def readNumberRange (entries : Entries) : Checked Condition :=
  (fun _ field low high => .numberRange ⟨field, low, high⟩) <$>
    required entries .type (kind "numberRange") <*> required entries .fieldName fieldName <*>
    given entries .minValue finiteNumber <*> given entries .maxValue finiteNumber

def readDateRange (entries : Entries) : Checked Condition :=
  (fun _ field first last => .dateRange ⟨field, first, last⟩) <$>
    required entries .type (kind "dateRange") <*> required entries .fieldName fieldName <*>
    given entries .startDate shortText <*> given entries .endDate shortText

def readCustomFormula (entries : Entries) : Checked Condition :=
  (fun _ formula => .customFormula formula) <$>
    required entries .type (kind "customFormula") <*> required entries .formula formulaText

/-- The kinds of conditions and how each is read. -/
def kinds : List (String × (Entries → Checked Condition)) :=
  [("ageRange", readAgeRange), ("multipleSelect", readMultipleSelect),
   ("numberRange", readNumberRange), ("dateRange", readDateRange),
   ("customFormula", readCustomFormula)]

/-- The issue with a kind that is none. -/
def unknownKind (tag : Value) : Checked Condition :=
  let shown := tag.text?.getD s!"<unprintable {tag.kindName} object>"
  let expected := ", ".intercalate (kinds.map fun (name, _) => s!"'{name}'")
  .issue <| s!"Input tag '{shown}' found using 'type' does not match any of the expected tags: " ++
    expected

/-- Reads a condition. Issues with its arguments are shown under its kind. -/
def read (v : Value) : Checked Condition :=
  match v with
  | .dictionary entries =>
    match Entries.get? entries "type" with
    | none => .issue "Unable to extract tag using discriminator 'type'"
    | some tag =>
      match tag.asText?.bind fun s => kinds.find? fun (name, _) => name == s with
      | some (name, readKind) => (readKind entries).under name
      | none => unknownKind tag
  | _ => .issue "Input should be a valid dictionary or object to extract fields from"

/-- The arguments of a condition. -/
def arguments : Condition → Arguments
  | .ageRange c =>
    c.ages.arguments ++ [(.type, .text "ageRange"), (.fieldName, .text c.fieldName),
      (.availableOptions, (c.availableOptions.map Value.ofTexts).getD .null)]
  | .multipleSelect c =>
    [(.type, .text "multipleSelect"), (.fieldName, .text c.fieldName),
     (.matchType, .text c.matchType.name), (.values, .ofTexts c.values),
     (.availableOptions, (c.availableOptions.map Value.ofTexts).getD .null),
     (.useFuzzyMatch, .bool c.useFuzzyMatch)]
  | .numberRange c =>
    [(.type, .text "numberRange"), (.fieldName, .text c.fieldName),
     (.minValue, (c.lowest.map Value.float).getD .null),
     (.maxValue, (c.highest.map Value.float).getD .null)]
  | .dateRange c =>
    [(.type, .text "dateRange"), (.fieldName, .text c.fieldName),
     (.startDate, .ofText? c.startDate), (.endDate, .ofText? c.endDate)]
  | .customFormula formula => [(.type, .text "customFormula"), (.formula, .text formula)]

end Condition

/-- Reads conditions by themselves. -/
def readConditions (v : Value) : Except Refusal (List Condition) :=
  let all : Checked (List Condition) := match v with
    | .list vs => Intake.items Condition.read 0 vs
    | _ => .issue "Input should be a valid list"
  all.toExcept "Invalid conditions"

end BaseGateway
