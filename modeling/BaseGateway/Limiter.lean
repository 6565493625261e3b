import BaseGateway.Decimal.Rounded
import BaseGateway.Fault

/-!
# Throttling

The service punishes a client that sends too many requests in a second, so the client counts its
own: a limiter keeps the instants of the requests in the last window of time and tells how long to
wait until another one fits. Instants may be of any type of numbers; the running program uses
floats.
-/

namespace BaseGateway

/-- The instants of recent requests, the latest last, and how many may fall into a window. -/
structure Limiter (τ : Type) where
  maximum : Int
  window : τ
  times : List τ := []

/-- What a limiter says of itself. -/
structure LimiterStatus (τ : Type) where
  requests : Nat
  maximum : Int
  window : τ

namespace Limiter

variable {τ : Type} [Add τ] [Sub τ] [OfNat τ 0] [LT τ] [DecidableLT τ]

/-- Forgets the instants that have left the window. -/
def prune (now : τ) (l : Limiter τ) : Limiter τ :=
  { l with times := l.times.filter fun t => now - l.window < t }

/-- Are there fewer instants than the maximum? -/
def hasRoom (l : Limiter τ) : Bool := (l.times.length : Int) < l.maximum

/-- The position of the instant to wait for when there is no room: the one that the maximum counts
back from the end. A maximum of nought, and one below it, counts on from the start. -/
def waitIndex (l : Limiter τ) : Nat :=
  if 0 < l.maximum then l.times.length - l.maximum.toNat else l.maximum.natAbs

/-- The time from one instant to another, or nought when it has passed. -/
def untilInstant (now instant : τ) : τ := if 0 < instant - now then instant - now else 0

/-- Does another request fit now? -/
def check (now : τ) (l : Limiter τ) : Bool × Limiter τ :=
  let l := l.prune now
  (l.hasRoom, l)

/-- How long to wait until another request fits. -/
def wait (now : τ) (l : Limiter τ) : Except Fault τ × Limiter τ :=
  let l := l.prune now
  if l.hasRoom then (.ok 0, l)
  else
    match l.times[l.waitIndex]? with
    | some oldest => (.ok (untilInstant now (oldest + l.window)), l)
    | none => (.error .noSuchRequest, l)

/-- Notes a request. -/
def record (now : τ) (l : Limiter τ) : Limiter τ := { l with times := l.times ++ [now] }

def status (now : τ) (l : Limiter τ) : LimiterStatus τ × Limiter τ :=
  let l := l.prune now
  (⟨l.times.length, l.maximum, l.window⟩, l)

/-- What a client is told that has to wait. -/
def message (l : Limiter Float) : String :=
  s!"Rate limit exceeded: {l.maximum} requests per {Decimal.generalText l.window}s. " ++
    "Please slow down."

end Limiter

/-- The status, the window being shown as given. -/
def LimiterStatus.toValue {τ : Type} (window : Value) (s : LimiterStatus τ) : Value :=
  .record [("requests_in_window", .int s.requests), ("max_per_window", .int s.maximum),
    ("window_seconds", window)]

end BaseGateway
