import BaseGateway.Decimal.Numeral
import BaseGateway.Formula.Name
import BaseGateway.Journal

/-!
# Age buckets

An age field often holds one of a few labels such as `25-34` or `65+`. A query for an interval of
ages asks for every label whose bucket overlaps it. Only the leading digits of each bound of a label
are read; a label that lacks one is left out with a warning.
-/

namespace BaseGateway

/-- The upper end of a bucket. -/
inductive Ceiling where
  /-- Every age from the floor on. -/
  | unbounded
  /-- The last age; `none` when the label does not tell. -/
  | last (age : Option Int)
  deriving DecidableEq, Repr

structure AgeBucket where
  label : String
  /-- The first age; `none` when the label does not tell. -/
  floor : Option Int
  ceiling : Ceiling
  deriving DecidableEq, Repr

/-- The integer that a text begins with, behind blanks and a sign. -/
def leadingInt? (s : List Char) : Except Fault (Option Int) :=
  let (negative, body) := Decimal.splitSign (s.dropWhile Text.isAsciiBlank)
  let digits := body.takeWhile Char.isDigit
  if digits.isEmpty then .ok none
  else if Decimal.maxDigits < digits.length then .error (.tooManyDigitsIn digits.length)
  else
    let n : Int := Decimal.digitsValue digits
    .ok (some (if negative then -n else n))

namespace AgeBucket

/-- Reads a label. A plus sign anywhere makes the bucket unbounded; otherwise the bounds stand on
either side of the first hyphen. -/
def ofLabel (label : String) : Except Fault AgeBucket := do
  let s := label.toList
  if s.contains '+' then
    return ⟨label, ← leadingInt? (s.erase '+'), .unbounded⟩
  else
    match Text.splitChars '-' s with
    | low :: high :: _ => return ⟨label, ← leadingInt? low, .last (← leadingInt? high)⟩
    | _ => return ⟨label, ← leadingInt? s, .last none⟩

/-- A bound whose absence is to be checked has to be within the range of floats. -/
def isMissing (bound : Option Int) : Except Fault Bool :=
  match bound with
  | none => .ok true
  | some n => if n.natAbs < Decimal.beyondDoubles then .ok false else .error .tooLargeForFloat

/-- Does the label lack a bound? -/
def isMalformed (b : AgeBucket) : Except Fault Bool := do
  if ← isMissing b.floor then return true
  else
    match b.ceiling with
    | .unbounded => return false
    | .last age => isMissing age

/-- Is the first number at most the second? Never so when one of them is not a number. -/
def le (a b : Number) : Bool :=
  match a.compare? b with
  | some .lt | some .eq => true
  | _ => false

/-- Does the bucket hold an age between two bounds? -/
def overlaps (b : AgeBucket) (lowest highest : Number) : Bool :=
  match b.floor, b.ceiling with
  | some floor, .unbounded => le (.whole floor) highest
  | some floor, .last (some last) => le (.whole floor) highest && le lowest (.whole last)
  | _, _ => false

end AgeBucket

/-- Labels of buckets as they were configured. Where something else than a text stands in for a
label, `flaw` is the fault that it gives when its turn comes, and nothing behind it counts. -/
structure AgeLabels where
  texts : List String
  flaw : Option Fault := none

/-- The fault of a value that is no label. -/
def labelFault (v : Value) : Fault :=
  match v with
  | .list items =>
    .lacksOperation "list"
      (if items.any (fun item => item.sameKey (.text "+")) then "replace" else "split")
  | .dictionary entries =>
    .lacksOperation "dict"
      (if (Entries.get? entries "+").isSome then "replace" else "split")
  | v => .notSearchable v.longKindName

def AgeLabels.ofValues : List Value → AgeLabels
  | [] => ⟨[], none⟩
  | .text s :: rest =>
    let labels := ofValues rest
    { labels with texts := s :: labels.texts }
  | v :: _ => ⟨[], some (labelFault v)⟩

/-- The labels whose buckets overlap an interval, in their order. -/
def overlappingLabels (lowest highest : Number) : List String → Logged (List String)
  | [] => return []
  | label :: rest => do
    let bucket ← Logged.ofFault (AgeBucket.ofLabel label)
    if ← Logged.ofFault bucket.isMalformed then
      Logged.note .warning s!"Ignoring malformed age range option {Text.quoted label}"
      overlappingLabels lowest highest rest
    else
      let found ← overlappingLabels lowest highest rest
      return if bucket.overlaps lowest highest then label :: found else found

/-- As `overlappingLabels`, with the flaw of the labels at the end. -/
def AgeLabels.overlapping (labels : AgeLabels) (lowest highest : Number) :
    Logged (List String) := do
  let found ← overlappingLabels lowest highest labels.texts
  match labels.flaw with
  | none => return found
  | some f => throw (.fault f)

/-- Truth values do not count as numbers here, and what is not finite is refused. -/
def requireFinite (v : Value) (role : String) : Except Failure Number :=
  let refusal : Failure := Refusal.invalidInput s!"{role} must be a finite number"
  match v with
  | .int n =>
    if n.natAbs < Decimal.beyondDoubles then .ok (.whole n) else .error (.fault .tooLargeForFloat)
  | .float x => if x.isFinite then .ok (.real x) else .error refusal
  | _ => .error refusal

/-- The formula for a field whose label overlaps an interval of ages. -/
def Formula.ofAges (field lowest highest : Value) (labels : AgeLabels) : Logged Formula := do
  let name ← Logged.ofRefusal (FieldName.ofValue field)
  let lowest ← Logged.ofExcept (requireFinite lowest "Minimum age")
  let highest ← Logged.ofExcept (requireFinite highest "Maximum age")
  let found ← labels.overlapping lowest highest
  return .oneOf (found.map fun label => .test name.chars .equal (.literal label.toList))

end BaseGateway
