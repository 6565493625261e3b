import BaseGateway.Intake.Part

/-!
# Labelled arguments

The arguments of a tool are the entries of a dictionary. An argument has two spellings, of which the
one with capitals counts when both are there; issues show it under the spelling it came with, and
entries that no argument asks for do not matter.
-/

namespace BaseGateway

/-- The two spellings of an argument, the one that counts first. -/
structure Label where
  camel : String
  snake : String
  deriving DecidableEq, Repr

/-- A label of one word, which has one spelling. -/
def Label.word (s : String) : Label := ⟨s, s⟩

/-- The spelling under which an argument is there, with its value. -/
def Label.find? (l : Label) (entries : Entries) : Option (String × Value) :=
  match Entries.get? entries l.camel with
  | some v => some (l.camel, v)
  | none => (Entries.get? entries l.snake).map fun v => (l.snake, v)

/-- Arguments as they were understood, in the order of their declaration. -/
abbrev Arguments := List (Label × Value)

namespace Arguments

/-- Every argument under its plain spelling. -/
def plain (args : Arguments) : Value := .record (args.map fun (l, v) => (l.snake, v))

/-- The arguments that are there under the spelling that counts. -/
def echo (args : Arguments) : Value :=
  .record ((args.filter fun (_, v) => !v.isNull).map fun (l, v) => (l.camel, v))

end Arguments

namespace Intake

/-- An argument that has to be there. -/
def required {α : Type} (entries : Entries) (l : Label) (part : Value → Checked α) : Checked α :=
  match l.find? entries with
  | some (key, v) => (part v).under key
  | none => (Checked.issue "Field required").under l.camel

/-- An argument that something stands in for when it is not there. -/
def withDefault {α : Type} (entries : Entries) (l : Label) (part : Value → Checked α)
    (otherwise : α) : Checked α :=
  match l.find? entries with
  | some (key, v) => (part v).under key
  | none => .valid otherwise

/-- An argument that may be missing or null. -/
def given {α : Type} (entries : Entries) (l : Label) (part : Value → Checked α) :
    Checked (Option α) :=
  withDefault entries l (optional part) none

/-- The arguments in a dictionary; anything else is an issue with the kind of arguments expected. -/
def fromDictionary {α : Type} (kind : String) (read : Entries → Checked α) (v : Value) :
    Checked α :=
  match v with
  | .dictionary entries => read entries
  | _ => .issue s!"Input should be a valid dictionary or instance of {kind}"

end Intake

end BaseGateway
