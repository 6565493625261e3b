import BaseGateway.Failure
import BaseGateway.Json.Reader

/-!
# Calls and replies

What goes out to the service and what comes back. A reply is an answer with a status and a text, or
the network gives up: either in a way of its own, or with a fault that is none of its business.
-/

namespace BaseGateway

/-- The parameters of a call: none, or pairs of names and values, in which a name may come again. -/
inductive Query where
  | absent
  /-- Each name once. -/
  | named (entries : List (String × Value))
  | pairs (entries : List (String × Value))

/-- The parameters as a value. -/
def Query.toValue : Query → Value
  | .absent => .null
  | .named entries => .record entries
  | .pairs entries => .list (entries.map fun (name, v) => .list [.text name, v])

structure Call where
  method : String
  url : String
  query : Query := .absent
  body : Option Value := none
  timeout : Value
  authorization : String

inductive Reply where
  | answer (status : Int) (body : String)
  /-- The service cannot be reached. -/
  | unreachable (reason : String)
  | broken (fault : Fault)

/-- Is the status that of a success? Those from 400 to 599 tell of a failure, and any other does
not. -/
def isSuccess (status : Int) : Bool := status < 400 || 600 ≤ status

/-- The document in a reply. Nothing at all counts as an empty dictionary. A failed answer is a
refusal, worded by what its document says if it has one. -/
def Reply.document (r : Reply) : Except Failure Value :=
  match r with
  | .unreachable reason =>
    .error (.refused (.service
      s!"Airtable API request failed: {Redaction.redact reason}" .null 500))
  | .broken f => .error (.fault f)
  | .answer status body =>
    if isSuccess status then
      if body.isEmpty then .ok (.dictionary []) else Except.orFault (Json.read body)
    else
      let said := match Json.read body with
        | .ok v => v
        | .error _ => .null
      match Refusal.ofAnswer status said with
      | .ok r => .error (.refused r)
      | .error f => .error (.fault f)

end BaseGateway
