import BaseGateway.Server.Start
import BaseGateway.Text.Replace
import BaseGateway.Text.Search

/-!
# The console

Where commands are run: beside the server there are the lines that were printed, the machine, and
the folder that files are written to. A command that ends early has an exit code or a failure; what
it printed before stays.
-/

namespace BaseGateway

/-- The desktop systems that keep the configuration of clients in different places. -/
inductive Platform where
  | mac
  | windows
  | other
  deriving DecidableEq, Repr

structure Machine where
  platform : Platform := .other
  home : String
  /-- The program that a client starts as the server. -/
  executable : String

/-- Where the client for desktops keeps its configuration. -/
def Machine.desktopClientFile (m : Machine) : String :=
  let place := match m.platform with
    | .mac => ["Library", "Application Support"]
    | .windows => ["AppData", "Roaming"]
    | .other => [".config"]
  "/".intercalate ([m.home] ++ place ++ ["Claude", "claude_desktop_config.json"])

/-- A folder: which other folders there are, and the files that were written. -/
structure Folder where
  hasFolder : String → Bool := fun _ => false
  files : List (String × String) := []

namespace Folder

/-- The steps of a path, those left out that stay in place. -/
def steps (path : String) : List String :=
  (Text.split path '/').filter fun step => step != "" && step != "."

/-- Does a path, by the way it is written, lead to a folder? -/
def endsInFolder (path : String) : Bool :=
  match (Text.split path '/').getLast? with
  | none | some "" | some "." | some ".." => true
  | some _ => false

/-- A path from its steps. -/
def join (path : String) (steps : List String) : String :=
  (if path.startsWith "/" then "/" else "") ++ "/".intercalate steps

/-- Writes a file, in place of any file of that path. The folder above it has to be there. -/
def write (f : Folder) (path text : String) : Except Fault Folder :=
  let name := join path (steps path)
  let above := (steps path).dropLast
  if path.contains '\x00' then .error .nullInPath
  else if !above.isEmpty && !f.hasFolder (join path above) then .error (.noDirectory path)
  else if endsInFolder path || f.hasFolder name then .error (.isDirectory path)
  else .ok { f with files := f.files.filter (fun entry => entry.1 != name) ++ [(name, text)] }

end Folder

structure Console (τ : Type) extends Server τ where
  machine : Machine
  folder : Folder := {}
  printed : String := ""

/-- Why a command ended early. -/
inductive Ending where
  | exit (code : Nat)
  | failed (f : Failure)

/-- A computation of a command. -/
abbrev Commanding (τ : Type) := ExceptT Ending (StateM (Console τ))

namespace Commanding

variable {τ : Type}

def exit {α : Type} (code : Nat) : Commanding τ α := throw (.exit code)

/-- Prints a line. -/
def say (line : String) : Commanding τ Unit :=
  modify fun s => { s with printed := s.printed ++ Text.withoutStyling (line ++ "\n") }

def sayAll (lines : List String) : Commanding τ Unit := lines.forM say

def ofExcept {α : Type} (x : Except Failure α) : Commanding τ α :=
  ExceptT.mk (pure (x.mapError .failed))

def ofFault {α : Type} (x : Except Fault α) : Commanding τ α := ofExcept (Except.orFault x)

/-- A computation of the server. -/
def ofServing {α : Type} (x : Serving τ α) : Commanding τ α := do
  let s ← get
  let (result, server) := x.run.run s.toServer
  set { s with toServer := server }
  ofExcept result

def ofLogged {α : Type} (x : Logged α) : Commanding τ α := ofServing (Serving.ofLogged x)

/-- Carries out what may be refused; a refusal is handed on in the words for clients. -/
def orRefusal {α : Type} (x : Commanding τ α) : Commanding τ (Except String α) :=
  tryCatch (do return .ok (← x)) fun e =>
    match e with
    | .failed (.refused r) => return .error r.report.error
    | e => throw e

end Commanding

end BaseGateway
