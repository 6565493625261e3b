import BaseGateway.Fault

/-!
# Looking into values

Reading the parts of a value whose shape is not known, with the fault that each kind of value gives
when it does not have such a part.
-/

namespace BaseGateway.Value

/-- A value as it is shown by itself. -/
def display (v : Value) : Except Fault String :=
  match v.text? with
  | some s => .ok s
  | none => .error .tooManyDigits

/-- A value as it is shown inside a message. -/
def displayQuoted (v : Value) : Except Fault String :=
  match v.quoted? with
  | some s => .ok s
  | none => .error .tooManyDigits

/-- A number of things, as many as a list can hold. -/
def count (n : Nat) : Except Fault Value :=
  if n < Nat.pow 2 63 then .ok (.int n) else .error .tooMany

/-- The value under a key of a dictionary, null when the key is missing. -/
def get (v : Value) (key : String) : Except Fault Value :=
  match v with
  | .dictionary entries => .ok ((Entries.get? entries key).getD .null)
  | v => .error (.lacksOperation v.longKindName "get")

/-- As `get`, with a value of one's own for a missing key. -/
def getOr (v : Value) (key : String) (otherwise : Value) : Except Fault Value :=
  match v with
  | .dictionary entries => .ok ((Entries.get? entries key).getD otherwise)
  | v => .error (.lacksOperation v.longKindName "get")

/-- The value under a key that has to be there. -/
def item (v : Value) (key : String) : Except Fault Value :=
  match v with
  | .dictionary entries =>
    match Entries.get? entries key with
    | some found => .ok found
    | none => .error (.missingKey (.text key))
  | .text _ => .error .textHasNoKeys
  | .list _ => .error .listHasNoKeys
  | v => .error (.notSubscriptable v.longKindName)

/-- The parts of a value one after the other: items of a list, keys of a dictionary, characters of
a text. -/
def parts (v : Value) : Except Fault (List Value) :=
  match v with
  | .list items => .ok items
  | .dictionary entries => .ok (entries.map (·.1))
  | .text s => .ok (s.toList.map fun c => .text c.toString)
  | v => .error (.notIterable v.longKindName)

/-- The entries of a dictionary. -/
def entries (v : Value) : Except Fault Entries :=
  match v with
  | .dictionary entries => .ok entries
  | v => .error (.lacksOperation v.longKindName "items")

/-- Texts with a separator between them. -/
def join (separator : String) (items : List Value) : Except Fault String := do
  let texts ← items.zipIdx.mapM fun (v, i) =>
    match v with
    | .text s => .ok s
    | v => .error (.joinedNonText i v.longKindName)
  return separator.intercalate texts

/-- A key as a dictionary takes it. -/
def requireKey (v : Value) : Except Fault Unit :=
  if v.isKey then .ok () else .error (.notKey v.longKindName)

end BaseGateway.Value
