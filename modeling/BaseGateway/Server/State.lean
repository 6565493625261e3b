import BaseGateway.Audit
import BaseGateway.Client.Batch
import BaseGateway.Settings.Connection

/-!
# The server

What the server calls itself, and what it knows from one call to the next: its surroundings, the
environment and the settings, the audit trail, and the client, which is set up on first use and kept
from then on.
-/

namespace BaseGateway

namespace Product

def version : String := "1.0.0"

/-- The name under which clients know the server. -/
def serverName : String := "airtable-mcp-server"

def fullName : String := "Airtable MCP Server"

/-- The name of the program on a command line. -/
def programName : String := "airtable-mcp"

/-- The name of the log. -/
def logName : String := "airtable_mcp"

/-- The arguments with which a client starts the server. -/
def launchArguments : List String := ["-m", "airtable_mcp.mcp_server"]

end Product

structure Server (τ : Type) extends Surroundings τ where
  environment : Environment := []
  settings : SettingsFile
  audit : AuditLog := {}
  client : Option (Account × Memory τ) := none

/-- A computation of the server, which may fail. -/
abbrev Serving (τ : Type) := ExceptT Failure (StateM (Server τ))

namespace Serving

variable {τ : Type}

def ofExcept {α : Type} (x : Except Failure α) : Serving τ α := ExceptT.mk (pure x)

def ofFault {α : Type} (x : Except Fault α) : Serving τ α := ofExcept (Except.orFault x)

def note (level : Level) (message : String) : Serving τ Unit :=
  modify fun s => { s with journal := s.journal.write level message }

/-- A computation that writes to the journal and does nothing else to the server. -/
def ofLogged {α : Type} (x : Logged α) : Serving τ α := do
  let s ← get
  let (result, journal) := x.run.run s.journal
  set { s with journal }
  ofExcept result

/-- The connection in force. -/
def connection : Serving τ Connection := do
  let s ← get
  ofLogged (Connection.load s.environment s.settings)

/-- Carries out an operation of a client, which remembers what it did. -/
def operate {α : Type} (account : Account) (memory : Memory τ) (x : Operation τ α) :
    Serving τ α := do
  let s ← get
  let start : Session τ := { toSurroundings := s.toSurroundings, toMemory := memory }
  let (result, last) := x.run.run start
  set { s with toSurroundings := last.toSurroundings, client := some (account, last.toMemory) }
  ofExcept result

end Serving

/-- The client of a connection, new and with nothing remembered. A window lasts one unit of time. -/
def Connection.client {τ : Type} [OfNat τ 1] (c : Connection) : Account × Memory τ :=
  ({ token := c.token, base := c.base.asText?, timeout := .float c.timeout },
    { limiter := { maximum := c.maxRequests, window := 1 } })

/-- The client, set up if there is none yet; the form of the token and the base has to be right. -/
def Serving.client {τ : Type} [OfNat τ 1] : Serving τ (Account × Memory τ) := do
  match (← get).client with
  | some known => return known
  | none =>
    let connection ← connection
    match ← ofFault connection.verdict with
    | .rejected reason => throw (.refused (.misconfigured reason))
    | .accepted _ =>
      modify fun s => { s with client := some connection.client }
      return connection.client

end BaseGateway
