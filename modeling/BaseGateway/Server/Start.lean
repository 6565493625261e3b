import BaseGateway.Server.Tool

/-!
# Starting the server

Before it takes any call the server checks its configuration and its token. Then it listens, either
on its standard input or as a web server.
-/

namespace BaseGateway

/-- How the server is reached. -/
inductive Transport where
  | standardInput
  | web (host : String) (portNumber : Int) (path : String)
  deriving DecidableEq, Repr

/-- The settings of a transport as they are handed on. -/
def Transport.toValue : Transport → Value
  | .standardInput => .dictionary []
  | .web host portNumber path =>
    .record [("transport", .text "streamable-http"), ("host", .text host),
      ("port", .int portNumber), ("path", .text path)]

namespace Server

variable {τ : Type} [Add τ] [Sub τ] [OfNat τ 0] [OfNat τ 1] [LT τ] [DecidableLT τ] [Duration τ]

/-- Sets up the client and checks the token against the service. -/
def checkAccess : Serving τ Unit := do
  let (account, memory) ← Serving.client
  let summary ← Serving.operate account memory account.validateCredentials
  Serving.note .info summary
  Serving.note .info
    s!"{Product.fullName} ({Product.logName}) v{Product.version} initialized"
  match account.base.filter (!·.isEmpty) with
  | some base => Serving.note .info s!"Default base ID configured: {Connection.hint base}"
  | none => Serving.note .info "No default base ID configured - PAT can access multiple bases"

/-- Gets the server ready. What goes wrong is noted before it is passed on. -/
def prepare : Serving τ Unit :=
  tryCatch checkAccess fun f => do
    Serving.note .error s!"Server initialization failed: {Redaction.redact f.message}"
    throw f

/-- The transport that the environment asks for. -/
def transport : Serving τ Transport := do
  let env := (← get).environment
  let name := Text.lower ((env.get? "MCP_TRANSPORT").getD "stdio")
  if name == "sse" || name == "http" then
    let host := (env.get? "MCP_HOST").getD "localhost"
    let portNumber ← Serving.ofFault (Value.asInt (.text ((env.get? "MCP_PORT").getD "3000")))
    let path := (env.get? "MCP_PATH").getD "/mcp"
    Serving.note .warning "⚠️ HTTP transport enabled - ensure proper network security!"
    return .web host portNumber path
  else
    Serving.note .info "Starting in STDIO mode"
    return .standardInput

/-- Starts the server: the transport on which it is to listen. -/
def start : Serving τ Transport := do
  prepare
  transport

end Server

end BaseGateway
