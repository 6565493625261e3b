import BaseGateway.Request.Basic

/-!
# Requests that query a table

Queries say what is looked for, not how the formula for it is written.
-/

namespace BaseGateway

open Intake

/-- Records whose age bucket overlaps an interval. -/
structure AgeQuery where
  ages : AgeBounds
  target : Target
  ageFieldName : String
  availableAgeRanges : Option (List String)
  additionalFilters : Option String
  extent : Extent

/-- Records whose options meet some values. -/
structure SelectQuery where
  target : Target
  fieldName : String
  matchType : Match
  values : List String
  availableOptions : Option (List String)
  useFuzzyMatch : Bool
  additionalFilters : Option String
  extent : Extent

/-- Records that satisfy all or some of several conditions. -/
structure SmartQuery where
  target : Target
  conditions : List Condition
  combineWith : Combination
  extent : Extent
  sort : Option (List SortField)

/-- The field that ages are looked up in when none is named. -/
def defaultAgeField : String := "Age"

namespace AgeQuery

def read : Value → Checked AgeQuery :=
  fromDictionary "QueryByAgeRangeInput" fun entries => withAges entries <|
    (fun target field labels filters extent ages => ⟨ages, target, field, labels, filters, extent⟩)
      <$> Target.read entries <*> withDefault entries .ageFieldName shortText defaultAgeField <*>
      given entries .availableAgeRanges ageLabels <*>
      given entries .additionalFilters formulaText <*> Extent.read entries

def arguments (q : AgeQuery) : Arguments :=
  q.ages.arguments ++ q.target.arguments ++
    [(.ageFieldName, .text q.ageFieldName), (.availableAgeRanges, .ofTexts? q.availableAgeRanges),
     (.additionalFilters, .ofText? q.additionalFilters)] ++ q.extent.arguments

end AgeQuery

namespace SelectQuery

def read : Value → Checked SelectQuery :=
  fromDictionary "QueryMultipleSelectInput" fun entries =>
    SelectQuery.mk <$> Target.read entries <*> required entries .fieldName Intake.fieldName <*>
      required entries .matchType (oneOf Match.names) <*>
      required entries .values (optionList 1) <*>
      given entries .availableOptions (optionList 0) <*>
      withDefault entries .useFuzzyMatch truth true <*>
      given entries .additionalFilters formulaText <*> Extent.read entries

def arguments (q : SelectQuery) : Arguments :=
  q.target.arguments ++
    [(.fieldName, .text q.fieldName), (.matchType, .text q.matchType.name),
     (.values, .ofTexts q.values), (.availableOptions, .ofTexts? q.availableOptions),
     (.useFuzzyMatch, .bool q.useFuzzyMatch),
     (.additionalFilters, .ofText? q.additionalFilters)] ++ q.extent.arguments

end SelectQuery

namespace SmartQuery

def read : Value → Checked SmartQuery :=
  fromDictionary "SmartQueryInput" fun entries =>
    SmartQuery.mk <$> Target.read entries <*>
      required entries .conditions (listOf Condition.read 1 Limits.conditions) <*>
      withDefault entries .combineWith (oneOf Combination.names) .and <*> Extent.read entries <*>
      SortField.readAll entries

def arguments (q : SmartQuery) : Arguments :=
  q.target.arguments ++
    [(.conditions, .list (q.conditions.map fun c => c.arguments.plain)),
     (.combineWith, .text q.combineWith.name)] ++ q.extent.arguments ++ [(.sort, .ofSort? q.sort)]

end SmartQuery

end BaseGateway
