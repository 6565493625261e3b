import BaseGateway.Digest.Sha256
import BaseGateway.Journal
import BaseGateway.Json.Canonical

/-!
# The audit trail

Every call of a tool leaves an entry that says whether it succeeded. Of the arguments only a short
hash is kept, enough to see that two calls were alike. The trail forgets its oldest entries.
-/

namespace BaseGateway

structure AuditEntry where
  tool : String
  argumentsHash : String
  success : Bool
  errorCode : Option String
  durationMs : Option Number

structure AuditLog where
  /-- How many entries are kept. -/
  maximum : Int := 1000
  entries : List AuditEntry := []

/-- The hash of arguments, which does not depend on the order of their names. Nothing hashes like no
arguments at all. -/
def argumentsHash (arguments : Value) : Except Fault String := do
  let text ← Json.canonicalText (if arguments.isGiven then arguments else .dictionary [])
  return Digest.sha256Text text

namespace AuditLog

/-- The entries that are kept: the last ones up to the maximum. A maximum of nought keeps all of
them, and one below it drops as many from the start. -/
def trim (maximum : Int) (entries : List AuditEntry) : List AuditEntry :=
  if maximum < entries.length then
    entries.drop (if 0 < maximum then entries.length - maximum.toNat else maximum.natAbs)
  else entries

def push (log : AuditLog) (entry : AuditEntry) : AuditLog :=
  { log with entries := trim log.maximum (log.entries ++ [entry]) }

/-- Notes a call. -/
def logCall (log : AuditLog) (tool : String) (arguments : Value) (success : Bool)
    (errorCode : Option String) (durationMs : Option Number) : Except Fault AuditLog := do
  let hash ← argumentsHash arguments
  return log.push ⟨tool, String.ofList (hash.toList.take 16), success, errorCode, durationMs⟩

/-- The names of the tools that were called, each once, in order. -/
def toolNames (log : AuditLog) : List String :=
  ((log.entries.map AuditEntry.tool).mergeSort fun a b => !decide (b < a)).eraseDups

/-- How many calls there were and how they ended. -/
def summary (log : AuditLog) : Value :=
  if log.entries.isEmpty then .record [("total_calls", .int 0)]
  else
    .record [("total_calls", .int log.entries.length),
      ("successful", .int (log.entries.countP AuditEntry.success)),
      ("failed", .int (log.entries.countP (!·.success))),
      ("tools_called", .ofTexts log.toolNames)]

end AuditLog

/-- The warning about a call that failed. -/
def auditWarning (tool : String) (errorCode : Option String) : String :=
  let code := errorCode.getD "None"
  s!"Tool {tool} failed with {code}"

/-- What is said about the audit trail and the limiter. -/
def securityStatus (log : AuditLog) (limiter : Option Value) : Value :=
  .record ([("audit_log", log.summary)] ++
    (limiter.map fun status => [("rate_limiter", status)]).getD [])

end BaseGateway
