import BaseGateway.Command.Basic
import BaseGateway.Command.Console
import BaseGateway.Condition.Formula
import BaseGateway.Settings.Stored

/-!
# Previews

Shows the formula that a query would use. Nothing is sent, so no access token is needed.
-/

namespace BaseGateway

/-- The items of a list that is written with commas; blank ones are left out. -/
def splitItems (s : String) : List String :=
  ((Text.split s ',').map Text.trim).filter (!·.isEmpty)

namespace Preview

/-- A match of options as the arguments of a condition. -/
def selectArguments (field : String) (values : List String) (how : String)
    (options : Option String) (fuzzy : Bool) : Value :=
  .record [("type", .text "multipleSelect"), ("fieldName", .text field), ("matchType", .text how),
    ("values", .ofTexts values),
    ("availableOptions", (options.map fun s => Value.ofTexts (splitItems s)).getD .null),
    ("useFuzzyMatch", .bool fuzzy)]

/-- The formula of a preview. -/
def formula (file : SettingsFile) : Preview → Logged Formula
  | .age lowest highest field labels => do
    let known ← match labels with
      | some s => pure ⟨splitItems s, none⟩
      | none => Settings.ageLabels file
    Formula.ofAges (.text field) (.int lowest) (.int highest) known
  | .select field values how options fuzzy => do
    let read := Condition.read (selectArguments field values how options fuzzy)
    let c ← Logged.ofRefusal (read.toExcept "Invalid conditions")
    c.toFormula (Settings.ageLabels file)
  | .number field lowest highest =>
    Logged.ofExcept <| Formula.ofNumbers (.text field)
      ((lowest.map Value.float).getD .null) ((highest.map Value.float).getD .null)
  | .date field first last =>
    Logged.ofRefusal <| Formula.ofDates (.text field) (.ofText? first) (.ofText? last)

variable {τ : Type}

def run (p : Preview) : Commanding τ Unit := do
  let file := (← get).settings
  match ← Commanding.orRefusal (Commanding.ofLogged (p.formula file)) with
  | .ok f => Commanding.say f.text
  | .error message =>
    Commanding.say s!"❌ {message}"
    Commanding.exit 1

end Preview

end BaseGateway
