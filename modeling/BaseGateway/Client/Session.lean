import BaseGateway.Client.Exchange
import BaseGateway.Journal
import BaseGateway.Limiter
import BaseGateway.SchemaCache
import BaseGateway.Text.Quoted

/-!
# Sessions with the service

A client carries out its operations in a session: the clock, the replies that the network has in
store, the calls that were sent so far with their instants, the limiter, the cached schemas and the
journal. Every call waits for the limiter first. A failed operation leaves the session as it was at
that point.
-/

namespace BaseGateway

/-- Numbers that lengths of time are measured in and shown as. -/
class Duration (τ : Type) where
  /-- In seconds with three places. -/
  text : τ → String

instance : Duration Float := ⟨Decimal.fixedText 3⟩

/-- The clock, the network and the journal. -/
structure Surroundings (τ : Type) where
  now : τ
  replies : List Reply := []
  /-- How long the next replies take; what comes behind them takes no time. -/
  latencies : List τ := []
  /-- What the network says once it has no more replies. -/
  silence : String := "no network"
  /-- The calls with their instants, the latest last. -/
  sent : List (τ × Call) := []
  journal : Journal := {}

/-- Waits for a reply. -/
def Surroundings.await {τ : Type} [Add τ] (s : Surroundings τ) : Surroundings τ :=
  match s.latencies with
  | [] => s
  | latency :: latencies => { s with now := s.now + latency, latencies }

/-- The schema of a table: what the service says of it, and its fields. -/
structure Schema where
  id : Value
  name : Value
  fields : List Value

/-- What a client remembers. -/
structure Memory (τ : Type) where
  limiter : Limiter τ
  cache : SchemaCache Schema := []

structure Session (τ : Type) extends Surroundings τ, Memory τ

/-- What a client is set up with. -/
structure Account where
  token : String
  /-- The base that is used when none is named. -/
  base : Option String := none
  timeout : Value

/-- An operation in a session, which may fail. -/
abbrev Operation (τ : Type) := ExceptT Failure (StateM (Session τ))

namespace Operation

variable {τ : Type}

def ofExcept {α : Type} (x : Except Failure α) : Operation τ α := ExceptT.mk (pure x)

def ofFault {α : Type} (x : Except Fault α) : Operation τ α := ofExcept (Except.orFault x)

/-- Writes to the journal. -/
def note (level : Level) (message : String) : Operation τ Unit :=
  modify fun s => { s with journal := s.journal.write level message }

/-- A computation that writes to the journal and does nothing else to the session. -/
def ofLogged {α : Type} (x : Logged α) : Operation τ α := do
  let s ← get
  let (result, journal) := x.run.run s.journal
  set { s with journal }
  ofExcept result

/-- Changes the cached schemas. -/
def modifyCache (f : SchemaCache Schema → SchemaCache Schema) : Operation τ Unit :=
  modify fun s => { s with cache := f s.cache }

variable [Add τ]

/-- Sends a call now and waits for the next reply. -/
def exchange (call : Call) : Operation τ Reply := do
  let s ← get
  let sent := s.sent ++ [(s.now, call)]
  let world := { s.toSurroundings.await with sent }
  match s.replies with
  | [] =>
    set { s with toSurroundings := world }
    return .unreachable s.silence
  | reply :: replies =>
    set { s with toSurroundings := { world with replies } }
    return reply

variable [Sub τ] [OfNat τ 0] [LT τ] [DecidableLT τ] [Duration τ]

/-- Waits until the limiter has room, and takes up the room. -/
def throttle : Operation τ Unit := do
  let s ← get
  let (wait, limiter) := s.limiter.wait s.now
  set { s with limiter }
  let wait ← ofFault wait
  if 0 < wait then
    note .debug s!"Throttling Airtable request for {Duration.text wait}s"
    modify fun s => { s with now := s.now + wait }
  modify fun s => { s with limiter := s.limiter.record s.now }

end Operation

/-- Where the service is found. -/
def serviceUrl : String := "https://api.airtable.com/v0"

namespace Account

/-- The path of a table, or of a record in it. An empty ID is none. -/
def tablePath (base table : String) (record : String := "") : String :=
  let path := base ++ "/" ++ Text.percentEncode table
  if record.isEmpty then path else path ++ "/" ++ Text.percentEncode record

/-- The base that is named, else the one that is set up. -/
def resolveBase (a : Account) (base : Option String) : Except Refusal String :=
  let named := base.filter (!·.isEmpty)
  match named.or (a.base.filter (!·.isEmpty)) with
  | some base => .ok base
  | none =>
    .error (.misconfigured <| "Base ID required. Please use the airtable_list_bases tool to see " ++
      "available bases and get their IDs, then provide the baseId parameter.")

variable {τ : Type} [Add τ] [Sub τ] [OfNat τ 0] [LT τ] [DecidableLT τ] [Duration τ]

/-- Calls the service and reads the document in its answer. -/
def request (a : Account) (method path : String) (query : Query := .absent)
    (body : Option Value := none) : Operation τ Value := do
  Operation.throttle
  Operation.note .debug s!"{method} {Redaction.redact path}"
  let reply ← Operation.exchange {
    method, url := serviceUrl ++ "/" ++ path, query, body, timeout := a.timeout
    authorization := "Bearer " ++ a.token }
  Operation.ofExcept reply.document

/-- The base of an operation. -/
def baseFor (a : Account) (base : Option String) : Operation τ String :=
  Operation.ofExcept (Except.orRefused (a.resolveBase base))

end Account

end BaseGateway
