import BaseGateway.Command.Console

/-!
# The entry for a client

Clients that start servers keep a list of them as JSON. The entry for this server is printed, and
written to a file if one is named. It has a placeholder in place of the access token.
-/

namespace BaseGateway.ClientEntry

/-- The entry; a default base is part of it. -/
def document (m : Machine) (base : Value) : Value :=
  let environment := [("AIRTABLE_PAT", Value.text "<your-personal-access-token>")] ++
    if base.isGiven then [("AIRTABLE_BASE_ID", base)] else []
  .record [("mcpServers", .record [(Product.serverName, .record
    [("command", .text m.executable), ("args", .ofTexts Product.launchArguments),
     ("env", .record environment)])])]

variable {τ : Type}

/-- Where the entry goes, for the one client whose place is known. -/
def sayPlace (client : String) : Commanding τ Unit := do
  if Text.lower client == "claude" then
    let place := (← get).machine.desktopClientFile
    Commanding.sayAll ["📋 Claude Desktop Configuration:", "", s!"Add this to {place}:", ""]

/-- Writes the entry to a file; an empty path is none. -/
def save (file text : String) : Commanding τ Unit := do
  if !file.isEmpty then
    let folder ← Commanding.ofFault ((← get).folder.write file text)
    modify fun s => { s with folder }
    Commanding.say s!"\n💾 Configuration saved to: {file}"

def run (client file : Option String) : Commanding τ Unit := do
  let c ← Commanding.ofServing Serving.connection
  Commanding.say "\n🔧 Airtable MCP Configuration\n"
  sayPlace (client.getD "")
  let text ← Commanding.ofFault
    (Json.document (.page false) (document (← get).machine c.base)).toExcept
  Commanding.say text
  save (file.getD "") text
  Commanding.sayAll ["", "⚠️  Important:",
    "   • Replace the AIRTABLE_PAT placeholder with your token",
    "   • Grant the token data.records:read/write and schema.bases:read scopes", ""]

end BaseGateway.ClientEntry
