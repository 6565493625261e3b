import BaseGateway.Refusal
import BaseGateway.Text.Case
import BaseGateway.Text.Search
import BaseGateway.Value.Access

/-!
# Failures

An operation fails with a refusal or with a fault. Before a client hears of a fault it becomes a
refusal, which is chosen by the words of its message; the failed answers of the service become
refusals by their status.
-/

namespace BaseGateway

inductive Failure where
  | refused (r : Refusal)
  | fault (f : Fault)
  deriving Inhabited

instance : Coe Refusal Failure := ⟨.refused⟩
instance : Coe Fault Failure := ⟨.fault⟩

def Failure.message : Failure → String
  | .refused r => r.message
  | .fault f => f.message

/-- A computation that meets only faults, among those that fail for any reason. -/
def Except.orFault {α : Type} : Except Fault α → Except Failure α :=
  Except.mapError .fault

def Except.orRefused {α : Type} : Except Refusal α → Except Failure α :=
  Except.mapError .refused

namespace Refusal

def isQuote (c : Char) : Bool := c == '\'' || c == '"'

/-- The name behind a match of `table`, blanks and perhaps a quote: everything up to the next
quote. Where no name follows the blanks but there are two of them or more, the last one is the
name. -/
def tableNameHere? (s : List Char) : Option (List Char) :=
  (Text.dropWord? "table".toList s).bind fun rest =>
    let blanks := rest.takeWhile Text.isBlank
    let behind := rest.dropWhile Text.isBlank
    let behind := match behind with
      | c :: more => if isQuote c then more else behind
      | [] => []
    let name := behind.takeWhile (!isQuote ·)
    if blanks.isEmpty then none
    else if !name.isEmpty then some name
    else if 2 ≤ blanks.length then blanks.getLast?.map ([·])
    else none

/-- The first table name in a message. -/
def tableName? : List Char → Option (List Char)
  | [] => none
  | c :: s => (tableNameHere? (c :: s)).or (tableName? s)

/-- Phrases that point at the access token. -/
def credentialPhrases : List String :=
  ["unauthorized", "invalid api key", "invalid key", "authentication failed"]

/-- The refusal for a message of unknown origin. -/
def ofMessage (message : String) : Refusal :=
  let small := Text.lower message
  if Text.contains message "AIRTABLE" || Text.contains message "API" then
    .service message .null 500
  else if credentialPhrases.any (Text.contains small) then
    .unauthenticated "Invalid or missing API credentials"
  else if Text.contains small "not found" || Text.contains small "could not find" then
    match tableName? message.toList with
    | some name => .notFound s!"Table '{String.ofList name}'" none
    | none => .notFound "Resource" none
  else .unforeseen message

end Refusal

/-- The refusal that a client hears of. -/
def Failure.toRefusal : Failure → Refusal
  | .refused r => r
  | .fault f => .ofMessage f.message

namespace Refusal

/-- What the body of a failed answer says: the name of the error, and a message for which the name
and then the status stand in. -/
def reportedError (status : Int) (body : Value) : Except Fault (Value × String) := do
  let fallback := s!"Airtable API request failed with status {status}"
  let .dictionary _ := body | return (.null, fallback)
  match ← body.get "error" with
  | .text s => return (.text s, s)
  | error@(.dictionary _) =>
    let name ← error.get "type"
    let message ← error.get "message"
    if message.isGiven then return (name, ← message.display)
    else if name.isGiven then return (name, ← name.display)
    else return (name, fallback)
  | _ => return (.null, fallback)

/-- The refusal for a failed answer of the service. -/
def ofAnswer (status : Int) (body : Value) : Except Fault Refusal := do
  let (name, message) ← reportedError status body
  return match status with
    | 401 => .unauthenticated message
    | 403 => .forbidden message
    | 404 => .notFound "Resource" none
    | 422 => .invalidInput s!"Airtable rejected the request: {Redaction.redact message}"
    | 429 => .throttled "Too many requests. Please try again later." (some (.whole 30))
    | _ => .service message name status

end Refusal

end BaseGateway
