import BaseGateway.Formula.Name
import BaseGateway.Text.Case

/-!
# Choosing options

Users name options loosely. A value that is an option but for its case stands for the first such
option; any other value stands for every option that it is a part of. The formulas for a field of
several options look for each option in the joined text of the field.
-/

namespace BaseGateway

/-- The options that hold a term, ignoring case. -/
def matchingOptions (term : String) (options : List String) : List String :=
  options.filter fun option => Text.contains (Text.lower option) (Text.lower term)

/-- What one value stands for. -/
def resolveValue (options : List String) (value : String) : List String :=
  match options.find? fun option => Text.lower option == Text.lower value with
  | some option => [option]
  | none => matchingOptions value options

/-- Adds what is not there yet, in order. -/
def addNew (known new : List String) : List String :=
  new.foldl (fun all s => if all.contains s then all else all ++ [s]) known

/-- The options that values stand for, each once. -/
def resolveFrom (options : List String) (known values : List String) : List String :=
  values.foldl (fun known value => addNew known (resolveValue options value)) known

/-- The options that values stand for; without options, the values themselves. -/
def resolveOptions (options values : List String) : List String :=
  if options.isEmpty then values else resolveFrom options [] values

/-- How the options of a field are to meet the values. -/
inductive Match where
  | hasAny
  | hasAll
  | hasNone
  deriving DecidableEq, Repr

/-- One option is among those of the field. -/
def Formula.contains (name : FieldName) (option : String) : Formula :=
  .call "FIND".toList
    [.literal option.toList, .call "ARRAYJOIN".toList [.field name.chars]]

/-- The formula for a field of several options, given the tests for each. -/
def Match.formula (m : Match) (tests : List Formula) : Formula :=
  match m, tests with
  | .hasAny, tests => .oneOf tests
  | .hasAll, [] | .hasNone, [] => .always
  | .hasAll, tests => .all tests
  | .hasNone, tests => .not (.oneOf tests)

/-- The formula for a field of several options. -/
def Formula.ofOptions (m : Match) (field : Value) (values options : List String) (fuzzy : Bool) :
    Except Refusal Formula := do
  let name ← FieldName.ofValue field
  let values := if fuzzy && !values.isEmpty then resolveOptions options values else values
  return m.formula (values.map (Formula.contains name))

end BaseGateway
