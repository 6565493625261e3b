import BaseGateway.Command.Basic
import BaseGateway.Command.Console

/-!
# Changing the settings

Every setting that is given is checked in turn, and the settings are saved once all of them are
right. Showing the settings changes nothing.
-/

namespace BaseGateway

namespace SettingsRequest

/-- The names of the levels that can be set. -/
def levels : List String := ["DEBUG", "INFO", "WARNING", "ERROR"]

variable {τ : Type}

/-- Tells what is wrong with a setting. -/
def reject {α : Type} (reason : String) : Commanding τ α := do
  Commanding.say s!"❌ {reason}"
  Commanding.exit 1

/-- Tells of a setting, which becomes an entry of the file. -/
def accept (key : String) (v : Value) (notice : String) : Commanding τ Entries := do
  Commanding.say s!"✅ {notice}"
  return [(.text key, v)]

/-- An empty base counts as none. -/
def checkBase : Option String → Commanding τ Entries
  | none | some "" => return []
  | some base =>
    if base.startsWith "app" && base.length == 17 then
      accept "default_base_id" (.text base) s!"Default base set to: {base}"
    else reject "Invalid base ID. Expected format: appXXXXXXXXXXXXXX"

def checkTimeout : Option Float → Commanding τ Entries
  | none => return []
  | some t => accept "request_timeout" (.float t) s!"Request timeout set to: {Decimal.floatText t}s"

def checkRateLimit : Option Int → Commanding τ Entries
  | none => return []
  | some n =>
    if n < 1 then reject "Rate limit must be at least 1"
    else accept "max_requests_per_second" (.int n) s!"Rate limit set to: {n}/s"

def checkLogLevel : Option String → Commanding τ Entries
  | none => return []
  | some name =>
    let level := Text.upper name
    if levels.contains level then accept "log_level" (.text level) s!"Log level set to: {level}"
    else
      let known := ", ".intercalate levels
      reject s!"Log level must be one of: {known}"

/-- The entries that a request sets. -/
def entries (r : SettingsRequest) : Commanding τ Entries := do
  let base ← checkBase r.base
  let timeout ← checkTimeout r.timeout
  let rateLimit ← checkRateLimit r.rateLimit
  let logLevel ← checkLogLevel r.logLevel
  return base ++ timeout ++ rateLimit ++ logLevel

/-- What is said when nothing is to be changed. -/
def usage : List String :=
  ["No configuration changes specified.", "", "Usage examples:",
   s!"  {Product.programName} config --base-id appXXXXXXXXXXXXXX",
   s!"  {Product.programName} config --show"]

/-- Saves settings in place of the file. -/
def save (config : Entries) : Commanding τ Unit := do
  let file := (← get).settings
  let saved := Settings.save config file
  modify fun s => { s with settings := { file with content := saved.content } }
  Commanding.ofLogged saved.outcome

def run (r : SettingsRequest) : Commanding τ Unit := do
  let config ← Commanding.ofLogged (Settings.load (← get).settings)
  if r.shown then
    let document := Json.document (.page false) (.dictionary config)
    Commanding.say (← Commanding.ofFault document.toExcept)
  else
    let changes ← r.entries
    if changes.isEmpty then Commanding.sayAll usage
    else
      save (Entries.override config changes)
      Commanding.sayAll ["", "💾 Configuration saved!",
        "⚠️  Note: AIRTABLE_BASE_ID in the environment takes precedence."]

end SettingsRequest

end BaseGateway
