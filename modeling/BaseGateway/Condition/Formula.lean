import BaseGateway.Condition.Basic
import BaseGateway.Formula.Age
import BaseGateway.Formula.Range

/-!
# The formula of a query

Each condition has a formula, and those of several conditions are combined into one. The first
condition without a formula fails the whole query, so that no part of it is ever used alone. Only a
caller's own formula is taken as it is.
-/

namespace BaseGateway

namespace Condition

/-- The formula of a condition. Where it names no labels of age buckets, `labels` are used. -/
def toFormula (labels : Logged AgeLabels) : Condition → Logged Formula
  | .ageRange c => do
    let known ← match c.availableOptions with
      | some texts => pure ⟨texts, none⟩
      | none => labels
    Formula.ofAges (.text c.fieldName) (.int c.ages.minAge) (.int c.ages.maxAge) known
  | .multipleSelect c =>
    Logged.ofRefusal <| Formula.ofOptions c.matchType (.text c.fieldName) c.values
      (c.availableOptions.getD []) c.useFuzzyMatch
  | .numberRange c =>
    Logged.ofExcept <| Formula.ofNumbers (.text c.fieldName)
      ((c.lowest.map Value.float).getD .null) ((c.highest.map Value.float).getD .null)
  | .dateRange c =>
    Logged.ofRefusal <|
      Formula.ofDates (.text c.fieldName) (.ofText? c.startDate) (.ofText? c.endDate)
  | .customFormula formula => pure (.verbatim formula.toList)

end Condition

/-- The refusal of a condition of a kind that no formula is written for. -/
def Refusal.unsupportedCondition (kind : String) : Refusal :=
  .invalidInput s!"Unsupported condition type: {kind}"

/-- The formula of a query of at least one condition. -/
def Combination.ofConditions (c : Combination) (labels : Logged AgeLabels)
    (conditions : List Condition) : Logged Formula := do
  if conditions.isEmpty then
    throw (.refused (.invalidInput "At least one condition required"))
  else
    let formulas ← conditions.mapM (Condition.toFormula labels)
    return c.combine formulas

end BaseGateway
