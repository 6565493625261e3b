import BaseGateway.Calendar.Reading
import BaseGateway.Failure
import BaseGateway.Field.Kind
import BaseGateway.Web.Address

/-!
# Values for fields

Before a record is written, each value is checked against the description of its field and then
brought into the shape that the type of the field asks for. Fields without a description take
their values as they are. Main definition: `convertFields`.
-/

namespace BaseGateway

/-- The items of a list; any other value is the only item. -/
def Value.asItems : Value → List Value
  | .list items => items
  | v => [v]

/-- The names of the choices of a field; `none` when it has no choices. -/
def choiceNames? (field : Value) : Except Fault (Option (List Value)) := do
  let options ← field.get "options"
  let choices ← if options.isGiven then options.get "choices" else .ok .null
  if choices.isGiven then
    return some (← (← choices.parts).mapM (·.item "name"))
  else return none

/-- Is a text among the names? -/
def isAmong (names : List Value) (s : String) : Bool :=
  names.any fun
    | .text t => t == s
    | _ => false

/-- No blanks, one at sign, and a point inside what follows it. -/
def isEmail (s : List Char) : Bool :=
  match Text.splitChars '@' s with
  | [user, domain] =>
    !s.any Text.isBlank && !user.isEmpty && ((domain.drop 1).dropLast).contains '.'
  | _ => false

/-- What is wrong with a value for a field, if anything is. -/
def fieldProblem? (v field : Value) : Except Fault (Option String) := do
  if v.isNull then return none
  let kind ← FieldKind.ofDescription field
  let name ← field.get "name"
  match kind with
  | some .singleSelect =>
    let some names ← choiceNames? field | return none
    if names.isEmpty || isAmong names (← v.display) then return none
    else
      let shown ← name.display
      let choices ← Value.join ", " names
      return some s!"Invalid choice for field \"{shown}\". Valid choices: {choices}"
  | some .multipleSelect =>
    let some names ← choiceNames? field | return none
    if names.isEmpty then return none
    let texts ← v.asItems.mapM Value.display
    let wrong := texts.filter fun s => !isAmong names s
    if wrong.isEmpty then return none
    else
      let shown ← name.display
      let listed := ", ".intercalate wrong
      let choices ← Value.join ", " names
      return some s!"Invalid choices for field \"{shown}\": {listed}. Valid choices: {choices}"
  | some .email =>
    if isEmail (← v.display).toList then return none
    else
      let shown ← name.display
      return some s!"Invalid email format for field \"{shown}\""
  | some .url =>
    if (← Web.Address.ofText (← v.display)).leadsSomewhere then return none
    else
      let shown ← name.display
      return some s!"Invalid URL format for field \"{shown}\""
  | _ => return none

/-- A date or a time in its ISO form. A text that is one takes on that form, `Z` standing for the time
of Greenwich; any other text stays. -/
def isoForm : Value → Value
  | .date d => .text d.text
  | .dateTime t => .text t.isoText
  | .text s =>
    match Calendar.DateTime.read? (Text.replaceChars 'Z' "+00:00".toList s.toList) with
    | some t => .text t.isoText
    | none => .text s
  | v => v

/-- A value as a number. -/
def numberForm (v field : Value) : Except Failure Value := do
  match v with
  | .int _ | .float _ => return v
  | v =>
    match Decimal.readFloat? (← Except.orFault v.display) with
    | some x => return .float x
    | none =>
      let shown ← Except.orFault (do (← field.get "name").display)
      let quoted ← Except.orFault v.displayQuoted
      throw (.refused (.invalidInput s!"Invalid number for field \"{shown}\": {quoted}"))

def checkboxForm : Value → Bool
  | .bool b => b
  | .text s => Text.lower s == "true" || s == "1"
  | v => v.isGiven

/-- A text as a dictionary with one entry; anything else stays. -/
def wrapText (key : String) : Value → Value
  | .text s => .record [(key, .text s)]
  | v => v

/-- A record link is given by the ID of the record or by a dictionary that has it. -/
def linkForm : Value → Except Fault Value
  | .text s => .ok (.text s)
  | v => v.item "id"

/-- A value in the shape that a field asks for. -/
def fieldForm (v field : Value) : Except Failure Value := do
  if v.isNull then return .null
  match ← Except.orFault (FieldKind.ofDescription field) with
  | some .singleSelect | some .email | some .url | some .text =>
    return .text (← Except.orFault v.display)
  | some .multipleSelect =>
    match v with
    | .list items => return .list items
    | v => return .list [.text (← Except.orFault v.display)]
  | some .date => return isoForm v
  | some .number => numberForm v field
  | some .checkbox => return .bool (checkboxForm v)
  | some .recordLinks => return .list (← Except.orFault (v.asItems.mapM linkForm))
  | some .attachments => return .list (v.asItems.map (wrapText "url"))
  | some .collaborators => return .list (v.asItems.map (wrapText "id"))
  | some .generated =>
    let type ← Except.orFault (do (← field.get "type").display)
    throw (.refused (.invalidInput s!"Field type \"{type}\" is AI-generated and read-only"))
  | some .computed =>
    let type ← Except.orFault (do (← field.get "type").display)
    throw (.refused (.invalidInput s!"Field type \"{type}\" is read-only and cannot be set"))
  | some .plain | none => return v

/-- The descriptions of fields under their names. Of equal names the last counts. -/
def fieldsByName (descriptions : List Value) : Except Fault Entries := do
  let named ← descriptions.mapM fun field => do
    let name ← field.item "name"
    name.requireKey
    return (name, field)
  return Entries.ofList named

/-- The value for one field of a record. -/
def convertField (known : Entries) (name v : Value) : Except Failure Value := do
  match Entries.find? known name with
  | none => return v
  | some field =>
    match ← Except.orFault (fieldProblem? v field) with
    | some problem => throw (.refused (.invalidInput problem))
    | none => fieldForm v field

/-- The values for a record; the first that is invalid is refused. -/
def convertFields (fields : Entries) (descriptions : List Value) : Except Failure Entries := do
  let known ← Except.orFault (fieldsByName descriptions)
  fields.mapM fun (name, v) => do return (name, ← convertField known name v)

end BaseGateway
