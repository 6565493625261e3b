/-!
# Switches

The words of a command line are switches, values of switches and plain words. A switch has a name of
two hyphens and perhaps a letter of one; letters can be written together. A value stands behind its
switch, with or without a space. Everything behind two hyphens alone is a plain word.
-/

namespace BaseGateway

/-- Why a command line asks for nothing that can be done. -/
inductive UsageError where
  /-- It asks how it is to be written. -/
  | helpWanted
  | noSuchSwitch (name : String)
  | valueExpected (name : String)
  | valueUnexpected (name : String)
  | unreadable (name word : String)
  | missingArgument (name : String)
  | extraArguments (words : List String)
  | missingCommand
  | noSuchCommand (name : String)
  deriving DecidableEq, Repr

def UsageError.message : UsageError → String
  | .helpWanted => "Usage: airtable-mcp [OPTIONS] COMMAND [ARGS]..."
  | .noSuchSwitch name => s!"No such option: {name}"
  | .valueExpected name => s!"Option '{name}' requires an argument."
  | .valueUnexpected name => s!"Option '{name}' does not take a value."
  | .unreadable name word => s!"Invalid value for '{name}': '{word}'"
  | .missingArgument name => s!"Missing argument '{name}'."
  | .extraArguments words =>
    let shown := " ".intercalate words
    s!"Got unexpected extra arguments ({shown})"
  | .missingCommand => "Missing command."
  | .noSuchCommand name => s!"No such command '{name}'."

structure Switch where
  /-- The long name with its hyphens. -/
  name : String
  letter : Option Char := none
  takesValue : Bool := true

/-- The switches of a command line, each with its value, and the plain words. -/
structure Given where
  switches : List (String × String) := []
  words : List String := []
  deriving DecidableEq, Repr

namespace Given

/-- The value of a switch; the last one counts. -/
def value? (g : Given) (name : String) : Option String :=
  (g.switches.reverse.find? fun entry => entry.1 == name).map (·.2)

def has (g : Given) (name : String) : Bool := (g.value? name).isSome

/-- With switches in front. -/
def behind (switches : List (String × String)) (g : Given) : Given :=
  { g with switches := switches ++ g.switches }

end Given

/-- Switches in one word, and the one whose value is the next word. -/
structure SwitchWord where
  complete : List (String × String)
  awaiting : Option String := none

namespace Switch

/-- Letters written together. What follows the letter of a switch with a value is the value. -/
def readLetters (known : List Switch) : List Char → Except UsageError SwitchWord
  | [] => .ok ⟨[], none⟩
  | c :: rest =>
    match known.find? fun s => s.letter == some c with
    | none => .error (.noSuchSwitch s!"-{c}")
    | some s =>
      if s.takesValue then
        if rest.isEmpty then .ok ⟨[], some s.name⟩
        else .ok ⟨[(s.name, String.ofList rest)], none⟩
      else do
        let word ← readLetters known rest
        return { word with complete := (s.name, "") :: word.complete }

/-- A long name, with its value behind an equals sign if there is one. -/
def splitValue (word : String) : String × Option String :=
  let name := word.toList.takeWhile (· != '=')
  match word.toList.drop name.length with
  | [] => (word, none)
  | _ :: value => (String.ofList name, some (String.ofList value))

/-- A word that begins with a hyphen. -/
def readWord (known : List Switch) (word : String) : Except UsageError SwitchWord :=
  let (name, value) := splitValue word
  match known.find? fun s => s.name == name with
  | some s =>
    match s.takesValue, value with
    | true, some v => .ok ⟨[(name, v)], none⟩
    | true, none => .ok ⟨[], some name⟩
    | false, none => .ok ⟨[(name, "")], none⟩
    | false, some _ => .error (.valueUnexpected name)
  | none =>
    if word.startsWith "--" then .error (.noSuchSwitch name)
    else readLetters known (word.toList.drop 1)

/-- A hyphen alone is a plain word. -/
def isSwitch (word : String) : Bool := word.startsWith "-" && word != "-"

/-- Reads the words of a line. Unless switches may be `mixed` with plain words, all that follows the
first plain word is plain. -/
def read (known : List Switch) (mixed : Bool) : List String → Except UsageError Given
  | [] => .ok {}
  | word :: rest =>
    if word == "--" then .ok { words := rest }
    else if isSwitch word then
      match readWord known word, rest with
      | .error e, _ => .error e
      | .ok ⟨complete, none⟩, rest => (read known mixed rest).map (Given.behind complete)
      | .ok ⟨_, some name⟩, [] => .error (.valueExpected name)
      | .ok ⟨complete, some name⟩, value :: rest =>
        (read known mixed rest).map (Given.behind (complete ++ [(name, value)]))
    else if mixed then
      (read known mixed rest).map fun g => { g with words := word :: g.words }
    else .ok { words := word :: rest }

/-- As `read`, with a switch that asks for help. -/
def readOrHelp (known : List Switch) (mixed : Bool) (args : List String) :
    Except UsageError Given := do
  let g ← read (known ++ [⟨"--help", none, false⟩]) mixed args
  if g.has "--help" then throw .helpWanted else return g

end Switch

end BaseGateway
