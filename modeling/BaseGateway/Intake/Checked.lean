import BaseGateway.Refusal

/-!
# Checked arguments

Reading the arguments of a tool ends with a result or with issues, each of which says where it is
and what is wrong. Readings of different parts are combined so that the issues of all of them are
reported, in the order of the parts: a combination has a result exactly when every part has one.
-/

namespace BaseGateway

/-- Something wrong with the part of the arguments under a path. -/
structure Issue where
  path : List String
  message : String
  deriving DecidableEq, Repr

/-- The line that reports an issue. -/
def Issue.line (i : Issue) : String := ".".intercalate i.path ++ ": " ++ i.message

/-- A result, or at least one issue. -/
inductive Checked (α : Type) where
  | valid (x : α)
  | flawed (first : Issue) (rest : List Issue)

namespace Checked

variable {α β : Type}

/-- A single issue with the part at hand. -/
def issue (message : String) : Checked α := .flawed ⟨[], message⟩ []

def issues : Checked α → List Issue
  | .valid _ => []
  | .flawed first rest => first :: rest

def map (f : α → β) : Checked α → Checked β
  | .valid x => .valid (f x)
  | .flawed first rest => .flawed first rest

/-- Puts two parts together. -/
def both (f : Checked (α → β)) (x : Checked α) : Checked β :=
  match f, x with
  | .valid f, .valid x => .valid (f x)
  | .valid _, .flawed first rest => .flawed first rest
  | .flawed first rest, x => .flawed first (rest ++ x.issues)

instance : Functor Checked where
  map := map

instance : Applicative Checked where
  pure := .valid
  seq f x := both f (x ())

/-- A further check, made only of a result. -/
def check (x : Checked α) (next : α → Checked β) : Checked β :=
  match x with
  | .valid x => next x
  | .flawed first rest => .flawed first rest

/-- The same reading as a part under a key. -/
def under (key : String) : Checked α → Checked α
  | .valid x => .valid x
  | .flawed first rest =>
    let lift (i : Issue) : Issue := { i with path := key :: i.path }
    .flawed (lift first) (rest.map lift)

/-- The result, or a refusal that lists the issues. -/
def toExcept (message : String) : Checked α → Except Refusal α
  | .valid x => .ok x
  | .flawed first rest => .error (.invalid message (some ((first :: rest).map Issue.line)))

end Checked

end BaseGateway
