import BaseGateway.Failure

/-!
# The journal

Messages for the operator, each with a level. A journal keeps those that reach its threshold. A
computation that writes to it may fail, and what it wrote before stays.
-/

namespace BaseGateway

inductive Level where
  | debug
  | info
  | warning
  | error
  deriving DecidableEq, Repr

/-- Levels by their weight. -/
def Level.weight : Level → Nat
  | .debug => 10
  | .info => 20
  | .warning => 30
  | .error => 40

def Level.name : Level → String
  | .debug => "DEBUG"
  | .info => "INFO"
  | .warning => "WARNING"
  | .error => "ERROR"

/-- A message in the journal. -/
structure Note where
  level : Level
  message : String
  deriving DecidableEq, Repr

def Note.text (n : Note) : String := s!"{n.level.name}: {n.message}"

structure Journal where
  threshold : Level := .info
  notes : List Note := []

/-- Keeps a message that reaches the threshold. -/
def Journal.write (j : Journal) (level : Level) (message : String) : Journal :=
  if j.threshold.weight ≤ level.weight then { j with notes := j.notes ++ [⟨level, message⟩] } else j

/-- Keeps those of several messages that reach the threshold. -/
def Journal.writeAll (j : Journal) (notes : List Note) : Journal :=
  notes.foldl (fun j n => j.write n.level n.message) j

/-- A computation that may fail and writes to the journal. -/
abbrev Logged := ExceptT Failure (StateM Journal)

namespace Logged

def note (level : Level) (message : String) : Logged Unit :=
  modifyThe Journal (·.write level message)

/-- A computation that writes nothing. -/
def ofExcept {α : Type} (x : Except Failure α) : Logged α := ExceptT.mk (pure x)

def ofFault {α : Type} (x : Except Fault α) : Logged α := ofExcept (Except.orFault x)

def ofRefusal {α : Type} (x : Except Refusal α) : Logged α := ofExcept (Except.orRefused x)

end Logged

end BaseGateway
