import BaseGateway.Command.ClientEntry
import BaseGateway.Command.Preview
import BaseGateway.Command.Report
import BaseGateway.Command.Settings

/-!
# Running a command

Reads a command line and does what it asks for. A command ends with an exit code, or with a failure
that it has no words for; the server goes on to listen once it is started.
-/

namespace BaseGateway

/-- How a command line ends. -/
inductive Conclusion where
  | exit (code : Nat)
  | failed (f : Failure)
  /-- The server was started and listens. -/
  | listening (t : Transport)

namespace Command

variable {τ : Type} [Add τ] [Sub τ] [OfNat τ 0] [OfNat τ 1] [LT τ] [DecidableLT τ] [Duration τ]

/-- Starts the server. -/
def runServer : Commanding τ Transport := do
  match ← Commanding.orRefusal (Commanding.ofServing Server.start) with
  | .ok transport => return transport
  | .error message =>
    Commanding.say s!"❌ {message}"
    Commanding.exit 1

/-- Does what a command asks for. -/
def run : Command → Commanding τ (Option Transport)
  | .serve => some <$> runServer
  | .status => do Report.status; return none
  | .settings r => do r.run; return none
  | .validate => do Report.validate; return none
  | .clientEntry client file => do ClientEntry.run client file; return none
  | .preview p => do p.run; return none

end Command

namespace CommandLine

/-- The code of a command line that is not understood. -/
def unusableCode : UsageError → Nat
  | .helpWanted => 0
  | _ => 2

variable {τ : Type} [Add τ] [Sub τ] [OfNat τ 0] [OfNat τ 1] [LT τ] [DecidableLT τ] [Duration τ]

def reportUnusable (e : UsageError) : Commanding τ (Option Transport) := do
  Commanding.say e.message
  Commanding.exit (unusableCode e)

/-- Lets every message through to the journal. -/
def setVerbose : Commanding τ Unit := do
  modify fun s => { s with journal := { s.journal with threshold := .debug } }
  Commanding.ofServing (Serving.note .debug "Verbose mode enabled.")

/-- Does what a command line asks for. -/
def perform : CommandLine → Commanding τ (Option Transport)
  | .version => do
    Commanding.sayAll [s!"🗂️ {Product.programName} Version: {Product.version}",
      s!"   {Product.fullName}"]
    return none
  | .unusable e => reportUnusable e
  | .command verbose c => do
    if verbose then setVerbose
    match c with
    | .ok c => c.run
    | .error e => reportUnusable e

/-- Reads a command line and does what it asks for. -/
def run (args : List String) (start : Console τ) : Conclusion × Console τ :=
  let (ended, console) := (perform (read args)).run.run start
  match ended with
  | .ok (some transport) => (.listening transport, console)
  | .ok none => (.exit 0, console)
  | .error (.exit code) => (.exit code, console)
  | .error (.failed f) => (.failed f, console)

end CommandLine

end BaseGateway
