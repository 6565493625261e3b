import BaseGateway.Command.Switch
import BaseGateway.Decimal.Lenient
import BaseGateway.Request.Query

/-!
# Commands

What a command line asks for. A line names a command behind switches that are common to all of them;
the switches and words behind the name are those of the command.
-/

namespace BaseGateway

/-- Settings to be changed, or to be shown as they are. -/
structure SettingsRequest where
  shown : Bool := false
  base : Option String := none
  timeout : Option Float := none
  rateLimit : Option Int := none
  logLevel : Option String := none

/-- A formula to be shown. Lists of labels and options are written with commas. -/
inductive Preview where
  | age (lowest highest : Int) (field : String) (labels : Option String)
  | select (field : String) (values : List String) (how : String) (options : Option String)
      (fuzzy : Bool)
  | number (field : String) (lowest highest : Option Float)
  | date (field : String) (first last : Option String)

inductive Command where
  | serve
  | status
  | settings (r : SettingsRequest)
  | validate
  /-- The entry for the server in the configuration of a client, perhaps for a file as well. -/
  | clientEntry (client file : Option String)
  | preview (p : Preview)

/-- What a command line asks for. -/
inductive CommandLine where
  | version
  /-- A command that begins with a word of its own, whatever becomes of the others. -/
  | command (verbose : Bool) (c : Except UsageError Command)
  | unusable (e : UsageError)

namespace Command

/-- A value of a switch as a number of some kind. -/
def readValue {α : Type} (read : String → Option α) (g : Given) (name : String) :
    Except UsageError (Option α) :=
  match g.value? name with
  | none => .ok none
  | some word =>
    match read word with
    | some x => .ok (some x)
    | none => .error (.unreadable name word)

def readInt? (word : String) : Option Int := (Decimal.Lenient.readInt word).toOption

/-- A plain word as an integer. -/
def readAge (name word : String) : Except UsageError Int :=
  match readInt? word with
  | some n => .ok n
  | none => .error (.unreadable name word)

/-- A command without plain words. -/
def withoutWords {α : Type} (g : Given) (x : α) : Except UsageError α :=
  if g.words.isEmpty then .ok x else .error (.extraArguments g.words)

def readPlain (c : Command) (args : List String) : Except UsageError Command := do
  withoutWords (← Switch.readOrHelp [] true args) c

def settingsSwitches : List Switch :=
  [⟨"--base-id", some 'b', true⟩, ⟨"--timeout", some 't', true⟩, ⟨"--rate-limit", none, true⟩,
   ⟨"--log-level", none, true⟩, ⟨"--show", none, false⟩]

def readSettings (args : List String) : Except UsageError Command := do
  let g ← Switch.readOrHelp settingsSwitches true args
  let timeout ← readValue Decimal.Lenient.readFloat? g "--timeout"
  let rateLimit ← readValue readInt? g "--rate-limit"
  withoutWords g <| .settings
    { shown := g.has "--show", base := g.value? "--base-id", timeout, rateLimit
      logLevel := g.value? "--log-level" }

def readClientEntry (args : List String) : Except UsageError Command := do
  let g ← Switch.readOrHelp [⟨"--output", some 'o', true⟩] true args
  match g.words with
  | [] => return .clientEntry none (g.value? "--output")
  | [client] => return .clientEntry (some client) (g.value? "--output")
  | _ :: extra => throw (.extraArguments extra)

end Command

namespace Preview

open Command

def readAges (args : List String) : Except UsageError Preview := do
  let g ← Switch.readOrHelp [⟨"--field", some 'f', true⟩, ⟨"--ranges", some 'r', true⟩] true args
  match g.words with
  | [low, high] =>
    return .age (← readAge "MIN_AGE" low) (← readAge "MAX_AGE" high)
      ((g.value? "--field").getD defaultAgeField) (g.value? "--ranges")
  | [] => throw (.missingArgument "MIN_AGE")
  | [_] => throw (.missingArgument "MAX_AGE")
  | _ :: _ :: extra => throw (.extraArguments extra)

/-- Values are looked for among the options unless the last word on it says otherwise. -/
def isFuzzy (g : Given) : Bool :=
  match g.switches.reverse.find? fun entry => entry.1 == "--fuzzy" || entry.1 == "--no-fuzzy" with
  | some (name, _) => name == "--fuzzy"
  | none => true

def readSelect (args : List String) : Except UsageError Preview := do
  let g ← Switch.readOrHelp
    [⟨"--match", some 'm', true⟩, ⟨"--options", some 'o', true⟩, ⟨"--fuzzy", none, false⟩,
     ⟨"--no-fuzzy", none, false⟩] true args
  match g.words with
  | field :: values@(_ :: _) =>
    return .select field values ((g.value? "--match").getD Match.hasAny.name)
      (g.value? "--options") (isFuzzy g)
  | [] => throw (.missingArgument "FIELD")
  | [_] => throw (.missingArgument "VALUES")

/-- The one word of a preview that takes one, the name of a field. -/
def fieldWord (g : Given) : Except UsageError String :=
  match g.words with
  | [field] => .ok field
  | [] => .error (.missingArgument "FIELD")
  | _ :: extra => .error (.extraArguments extra)

def readNumbers (args : List String) : Except UsageError Preview := do
  let g ← Switch.readOrHelp [⟨"--min", none, true⟩, ⟨"--max", none, true⟩] true args
  let low ← readValue Decimal.Lenient.readFloat? g "--min"
  let high ← readValue Decimal.Lenient.readFloat? g "--max"
  return .number (← fieldWord g) low high

def readDates (args : List String) : Except UsageError Preview := do
  let g ← Switch.readOrHelp [⟨"--start", none, true⟩, ⟨"--end", none, true⟩] true args
  return .date (← fieldWord g) (g.value? "--start") (g.value? "--end")

/-- The previews by their names. -/
def table : List (String × (List String → Except UsageError Preview)) :=
  [("age", readAges), ("select", readSelect), ("number", readNumbers), ("date", readDates)]

/-- A preview is named behind the command. -/
def read (args : List String) : Except UsageError Preview := do
  let g ← Switch.readOrHelp [] false args
  match g.words with
  | [] => throw .missingCommand
  | name :: rest =>
    match table.find? fun entry => entry.1 == name with
    | some (_, readRest) => readRest rest
    | none => throw (.noSuchCommand name)

end Preview

namespace Command

def readPreview (args : List String) : Except UsageError Command := do
  return .preview (← Preview.read args)

/-- The commands by their names. -/
def table : List (String × (List String → Except UsageError Command)) :=
  [("serve", readPlain .serve), ("status", readPlain .status), ("config", readSettings),
   ("validate", readPlain .validate), ("mcp-config", readClientEntry), ("formula", readPreview)]

end Command

namespace CommandLine

/-- The switches in front of the command. -/
def switches : List Switch :=
  [⟨"--version", some 'v', false⟩, ⟨"--verbose", some 'V', false⟩, ⟨"--help", none, false⟩]

/-- Reads a command line. The version and the help come before everything else. -/
def read (args : List String) : CommandLine :=
  match Switch.read switches false args with
  | .error e => .unusable e
  | .ok g =>
    match g.switches.find? fun entry => entry.1 != "--verbose" with
    | some (name, _) => if name == "--version" then .version else .unusable .helpWanted
    | none =>
      match g.words with
      | [] => .unusable .missingCommand
      | name :: rest =>
        match Command.table.find? fun entry => entry.1 == name with
        | some (_, readRest) => .command (g.has "--verbose") (readRest rest)
        | none => .unusable (.noSuchCommand name)

end CommandLine

end BaseGateway
