import BaseGateway.Settings.Stored

/-!
# The connection to the service

What the environment and the stored settings say about the service: the access token, which comes
from the environment alone, the base that is used when none is named, the time limit of a request
and the most requests in a second. The form of the token and of the base is checked before use.
-/

namespace BaseGateway

/-- The variables of the environment. -/
abbrev Environment := List (String × String)

namespace Environment

def get? (env : Environment) (name : String) : Option String :=
  (env.find? fun entry => entry.1 == name).map (·.2)

/-- Sets a variable, or unsets it. -/
def set (env : Environment) (name : String) (s : Option String) : Environment :=
  let others := env.filter fun entry => entry.1 != name
  match s with
  | none => others
  | some s => others ++ [(name, s)]

end Environment

/-- How the service is reached. -/
structure Connection where
  token : String
  /-- The base that is used when none is named. -/
  base : Value
  /-- The time limit of a request in seconds. -/
  timeout : Float
  maxRequests : Int

/-- Is the form of a token and a base right? -/
inductive Verdict where
  | accepted (summary : String)
  | rejected (reason : String)
  deriving DecidableEq, Repr

def Verdict.isAccepted : Verdict → Bool
  | .accepted _ => true
  | .rejected _ => false

def Verdict.message : Verdict → String
  | .accepted s | .rejected s => s

/-- A value as a float. -/
def Value.asFloat (v : Value) : Except Fault Float :=
  match v with
  | .float x => .ok x
  | .bool b => .ok (Decimal.floatOfInt b.toInt)
  | .int n =>
    if n.natAbs < Decimal.beyondDoubles then .ok (Decimal.floatOfInt n)
    else .error .tooLargeForFloat
  | .text s =>
    match Decimal.readFloat? s with
    | some x => .ok x
    | none => .error (.malformedFloat s)
  | v => .error (.notConvertibleToFloat v.longKindName)

/-- A value as an integer; a float loses its fraction. -/
def Value.asInt (v : Value) : Except Fault Int :=
  match v with
  | .int n => .ok n
  | .bool b => .ok b.toInt
  | .float x =>
    match Decimal.Reading.ofFloat x with
    | .finite negative b => .ok (Decimal.truncate negative b)
    | .infinite _ => .error .infiniteToInt
    | .nan => .error .nanToInt
  | .text s =>
    match Decimal.readInt s with
    | .ok n => .ok n
    | .error .malformed => .error (.malformedInt s)
    | .error (.tooLong digits) => .error (.tooManyDigitsIn digits)
  | v => .error (.notConvertibleToInt v.longKindName)

namespace Connection

/-- The connection that the environment and the settings describe. -/
def ofSettings (env : Environment) (settings : Entries) : Except Fault Connection := do
  let or (name setting : String) : Value :=
    ((env.get? name).map Value.text).getD (Settings.get settings setting)
  return {
    token := (env.get? "AIRTABLE_PAT").getD ""
    base := or "AIRTABLE_BASE_ID" "default_base_id"
    timeout := ← (or "AIRTABLE_TIMEOUT" "request_timeout").asFloat
    maxRequests := ← (Settings.get settings "max_requests_per_second").asInt }

/-- The connection in force. -/
def load (env : Environment) (file : SettingsFile) : Logged Connection := do
  Logged.ofFault (ofSettings env (← Settings.load file))

/-- The first characters of a base, enough to tell which one it is. -/
def hint (base : String) : String := String.ofList (base.toList.take 6) ++ "***"

/-- A text that begins with the letters of its kind, or the fault of what is no text. -/
def startsWith (kind : String) (v : Value) : Except Fault (Option String) :=
  match v with
  | .text s => .ok (if s.startsWith kind then some s else none)
  | v => .error (.lacksOperation v.longKindName "startswith")

/-- Checks the form of a base. -/
def checkBase (base : Value) : Except Fault Verdict := do
  if !base.isGiven then
    return .accepted "Airtable configured (no default base - pass baseId per call)"
  else
    match ← startsWith "app" base with
    | some s =>
      if s.length = 17 then
        return .accepted s!"Airtable configured with default base {hint s}"
      else return .rejected badBase
    | none => return .rejected badBase
where
  badBase : String := "Invalid AIRTABLE_BASE_ID format. Expected format: appXXXXXXXXXXXXXX"

/-- Checks the form of a token and of a base. -/
def checkForm (token base : Value) : Except Fault Verdict := do
  if !token.isGiven then return .rejected "AIRTABLE_PAT environment variable not set"
  else
    match ← startsWith "pat" token with
    | none =>
      return .rejected <| "Invalid token format. Expected Personal Access Token starting with " ++
        "\"pat\". Legacy API keys are no longer supported."
    | some s =>
      if s.length < 20 then
        return .rejected "Invalid AIRTABLE_PAT format - token appears too short"
      else checkBase base

def verdict (c : Connection) : Except Fault Verdict := checkForm (.text c.token) c.base

def toValue (c : Connection) : Value :=
  .record [("api_key", .text c.token), ("base_id", c.base), ("timeout", .float c.timeout),
    ("max_requests_per_second", .int c.maxRequests)]

end Connection

/-- Levels of the log by their names, which may be written in any case. -/
def Settings.logLevels : List (String × Nat) :=
  [("CRITICAL", 50), ("FATAL", 50), ("ERROR", 40), ("WARN", 30), ("WARNING", 30), ("INFO", 20),
   ("DEBUG", 10), ("NOTSET", 0)]

/-- The weight of the log level that the environment names, else the settings. -/
def Settings.logLevel (env : Environment) (file : SettingsFile) : Logged Nat := do
  let name ← match env.get? "LOG_LEVEL" with
    | some s => if s.isEmpty then stored else pure s
    | none => stored
  let name := Text.upper name
  match logLevels.find? fun entry => entry.1 == name with
  | some (_, weight) => return weight
  | none =>
    Logged.note .warning s!"Unknown log level {Text.quoted name}, using INFO"
    return 20
where
  stored : Logged String := do
    let level := get (← load file) "log_level"
    if level.isGiven then Logged.ofFault level.display else return "INFO"

end BaseGateway
