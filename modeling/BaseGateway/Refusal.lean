import BaseGateway.Redaction
import BaseGateway.Value.Display

/-!
# Refusals

The errors that this library words itself. Each has a message for the log, a code, the status that
a web service would answer with, and a report for the client that called, which is worded so that
no secret shows in it.
-/

namespace BaseGateway

inductive Refusal where
  | general (message code : String) (status : Int)
  /-- The caller's input is invalid. -/
  | invalid (message : String) (details : Option (List String))
  /-- A field name could end its braces early. -/
  | unsafeName (name : String)
  /-- The access token is missing or rejected. -/
  | unauthenticated (message : String)
  /-- The access token lacks a permission. -/
  | forbidden (message : String)
  /-- A base, table or record does not exist. -/
  | notFound (resource : String) (id : Option String)
  /-- The service has had too many requests. -/
  | throttled (message : String) (retryAfter : Option Number)
  /-- The service reported an error, perhaps under a name of its own. -/
  | service (message : String) (reported : Value) (status : Int)
  /-- Anything unforeseen. -/
  | unforeseen (message : String)
  /-- A request exceeds a limit. -/
  | tooLarge (resource : String) (limit actual : Int)
  /-- The configuration is incomplete. -/
  | misconfigured (message : String)

/-- What a client is told. -/
structure ClientReport where
  error : String
  code : String
  details : Option (List String) := none
  retryAfter : Option Number := none

namespace ClientReport

/-- The entries of the report; empty details are left out. -/
def toValue (r : ClientReport) : Value :=
  let details := match r.details with
    | none | some [] => []
    | some lines => [("details", Value.ofTexts lines)]
  let retryAfter := match r.retryAfter with
    | none => []
    | some n => [("retryAfter", n.toValue)]
  .record ([("error", .text r.error), ("code", .text r.code)] ++ details ++ retryAfter)

end ClientReport

namespace Refusal

/-- An invalid input without further details. -/
def invalidInput (message : String) : Refusal := .invalid message none

def code : Refusal → String
  | .general _ code _ => code
  | .invalid .. => "VALIDATION_ERROR"
  | .unsafeName _ => "FORMULA_INJECTION_DETECTED"
  | .unauthenticated _ => "AUTHENTICATION_ERROR"
  | .forbidden _ => "AUTHORIZATION_ERROR"
  | .notFound .. => "NOT_FOUND"
  | .throttled .. => "RATE_LIMIT_EXCEEDED"
  | .service .. => "AIRTABLE_API_ERROR"
  | .unforeseen _ => "INTERNAL_SERVER_ERROR"
  | .tooLarge .. => "PAYLOAD_TOO_LARGE"
  | .misconfigured _ => "CONFIGURATION_ERROR"

def status : Refusal → Int
  | .general _ _ status => status
  | .invalid .. | .unsafeName _ | .misconfigured _ => 400
  | .unauthenticated _ => 401
  | .forbidden _ => 403
  | .notFound .. => 404
  | .tooLarge .. => 413
  | .throttled .. => 429
  | .service _ _ status => status
  | .unforeseen _ => 500

/-- The message for the log. An ID that is empty counts as not given. -/
def message : Refusal → String
  | .general message .. | .invalid message _ | .unauthenticated message | .forbidden message
  | .throttled message _ | .service message .. | .unforeseen message | .misconfigured message =>
    message
  | .unsafeName name =>
    s!"Invalid field name {Text.quoted name}: contains forbidden characters (\x7b\x7d, newlines)"
  | .notFound resource id =>
    match id with
    | none | some "" => s!"{resource} not found"
    | some id => s!"{resource} with ID '{id}' not found"
  | .tooLarge resource limit actual =>
    s!"{resource} exceeds maximum size limit. Max: {limit}, Actual: {actual}"

/-- The report for the client. What the service says is redacted, and what concerns the access token
or the inner workings is not repeated at all. -/
def report (r : Refusal) : ClientReport :=
  match r with
  | .invalid message details => { error := message, code := r.code, details }
  | .unauthenticated _ =>
    { error := "Authentication failed. Please check your API credentials.", code := r.code }
  | .forbidden _ =>
    { error := "You do not have permission to perform this action.", code := r.code }
  | .throttled message retryAfter => { error := message, code := r.code, retryAfter }
  | .service message .. => { error := Redaction.redact message, code := r.code }
  | .unforeseen _ =>
    { error := "An internal error occurred. Please try again later.", code := r.code }
  | r => { error := r.message, code := r.code }

end Refusal

end BaseGateway
