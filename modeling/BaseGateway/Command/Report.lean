import BaseGateway.Command.Console

/-!
# Reports on the configuration

The status shows the configuration and the limits; a validation also tries the access token out.
-/

namespace BaseGateway.Report

variable {τ : Type}

/-- The connection that is configured. -/
def connection : Commanding τ Connection := Commanding.ofServing Serving.connection

/-- Says whether the form of the token and the base is right. -/
def sayVerdict (c : Connection) : Commanding τ Verdict := do
  let verdict ← Commanding.ofFault c.verdict
  let mark := if verdict.isAccepted then "✅" else "❌"
  Commanding.say s!"   {mark} {verdict.message}"
  return verdict

/-- How the token and the base are set. -/
def hints : List String :=
  ["", "   To configure, set environment variables:",
   "   export AIRTABLE_PAT='patXXXXXXXXXXXXXX.XXXX'",
   "   export AIRTABLE_BASE_ID='appXXXXXXXXXXXXXX'  # optional"]

/-- The settings that are in force. -/
def saySettings (c : Connection) : Commanding τ Unit := do
  let config ← Commanding.ofLogged (Settings.load (← get).settings)
  Commanding.say s!"   Request timeout: {Decimal.floatText c.timeout}s"
  Commanding.say s!"   Rate limit: {c.maxRequests} requests/second"
  let attachments ← Commanding.ofFault (Settings.get config "exclude_attachments_default").display
  Commanding.say s!"   Exclude attachments by default: {attachments}"
  let labels ← Commanding.ofFault (do
    Value.join ", " (← (Settings.get config "default_age_ranges").parts))
  Commanding.say s!"   Default age ranges: {labels}"

def sayLimits : Commanding τ Unit :=
  Commanding.sayAll <| Limits.shown.map fun (name, n) => s!"   • {name}: {n}"

def status : Commanding τ Unit := do
  Commanding.sayAll [s!"\n🗂️ {Product.fullName}", s!"   Version: {Product.version}", "",
    "🔑 Airtable Configuration:"]
  let c ← connection
  let verdict ← sayVerdict c
  if !verdict.isAccepted then Commanding.sayAll hints
  Commanding.sayAll ["", "⚙️  Runtime Configuration:"]
  saySettings c
  Commanding.sayAll ["", "🔒 Input Limits:"]
  sayLimits
  Commanding.say ""

variable [Add τ] [Sub τ] [OfNat τ 0] [OfNat τ 1] [LT τ] [DecidableLT τ] [Duration τ]

/-- Tries the access token out and tells of the errors. -/
def tryToken (c : Connection) : Commanding τ (List String) := do
  Commanding.say "\n2️⃣  Testing token against the Metadata API..."
  let (account, memory) := c.client
  let operation := Serving.operate account memory account.validateCredentials
  match ← Commanding.orRefusal (Commanding.ofServing operation) with
  | .ok summary =>
    Commanding.say s!"   ✅ {summary}"
    return []
  | .error message =>
    Commanding.say s!"   ❌ {message}"
    return [message]

def validate : Commanding τ Unit := do
  Commanding.sayAll ["\n🔍 Validating Airtable MCP Configuration...\n",
    "1️⃣  Checking configuration format..."]
  let c ← connection
  let errors ← match ← sayVerdict c with
    | .accepted _ => tryToken c
    | .rejected reason => pure [reason]
  let rule := String.ofList (List.replicate 50 '=')
  Commanding.say s!"\n{rule}"
  if errors.isEmpty then Commanding.sayAll ["✅ Validation PASSED", ""]
  else
    Commanding.sayAll (["❌ Validation FAILED", "\nErrors:"] ++ errors.map fun e => s!"  • {e}")
    Commanding.exit 1

end BaseGateway.Report
