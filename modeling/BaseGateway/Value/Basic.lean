import BaseGateway.Calendar.DateTime

/-!
# Values

The data that callers hand in and the service sends back: documents of nested lists and
dictionaries, and besides them dates. A dictionary keeps its entries in the order of first
insertion; its keys are values too, nearly always texts.
-/

namespace BaseGateway

inductive Value where
  | null
  | bool (b : Bool)
  | int (n : Int)
  | float (x : Float)
  | text (s : String)
  | list (items : List Value)
  | dictionary (entries : List (Value × Value))
  | date (d : Calendar.Date)
  | dateTime (t : Calendar.DateTime)
  deriving Inhabited

/-- A whole number or a float. -/
inductive Number where
  | whole (n : Int)
  | real (x : Float)

def Number.toValue : Number → Value
  | .whole n => .int n
  | .real x => .float x

/-- The entries of a dictionary. -/
abbrev Entries := List (Value × Value)

namespace Value

/-- What a value is called in messages. -/
def kindName : Value → String
  | .null => "NoneType"
  | .bool _ => "bool"
  | .int _ => "int"
  | .float _ => "float"
  | .text _ => "str"
  | .list _ => "list"
  | .dictionary _ => "dict"
  | .date _ => "date"
  | .dateTime _ => "datetime"

/-- What a value is called in messages about the operations it lacks. -/
def longKindName : Value → String
  | .date _ => "datetime.date"
  | .dateTime _ => "datetime.datetime"
  | v => v.kindName

/-- Nothing, nought, and what is empty do not count as given. -/
def isGiven : Value → Bool
  | .null => false
  | .bool b => b
  | .int n => n != 0
  | .float x => x != 0.0
  | .text s => !s.isEmpty
  | .list items => !items.isEmpty
  | .dictionary entries => !entries.isEmpty
  | .date _ | .dateTime _ => true

def isNull : Value → Bool
  | .null => true
  | _ => false

/-- The text that a value is, if it is one. -/
def asText? : Value → Option String
  | .text s => some s
  | _ => none

/-- Only values without parts of their own can be keys. -/
def isKey : Value → Bool
  | .list _ | .dictionary _ => false
  | _ => true

/-- Truth values count as nought and one among the numbers. -/
def number? : Value → Option Number
  | .bool b => some (.whole b.toInt)
  | .int n => some (.whole n)
  | .float x => some (.real x)
  | _ => none

def ofTexts (texts : List String) : Value := .list (texts.map .text)

def ofText? : Option String → Value
  | none => .null
  | some s => .text s

/-- A dictionary with the given texts as keys. -/
def record (fields : List (String × Value)) : Value :=
  .dictionary (fields.map fun (key, v) => (.text key, v))

end Value

/-- The order of a float and an integer; `none` for what is not a number. -/
def compareFloatInt? (x : Float) (n : Int) : Option Ordering :=
  match Decimal.Reading.ofFloat x with
  | .nan => none
  | .infinite negative => some (if negative then .lt else .gt)
  | .finite negative b => some (Decimal.compareInt negative b n)

def compareFloats? (x y : Float) : Option Ordering :=
  if x < y then some .lt else if y < x then some .gt else if x == y then some .eq else none

/-- The order of two numbers by their exact values; `none` when one of them is not a number. -/
def Number.compare? : Number → Number → Option Ordering
  | .whole m, .whole n => some (compare m n)
  | .whole m, .real y => (compareFloatInt? y m).map Ordering.swap
  | .real x, .whole n => compareFloatInt? x n
  | .real x, .real y => compareFloats? x y

/-- Are two values the same key? Numbers are compared by value, whatever their kind. -/
def Value.sameKey (a b : Value) : Bool :=
  match a, b with
  | .null, .null => true
  | .text s, .text t => s == t
  | .date d, .date e => d == e
  | .dateTime t, .dateTime u => t == u
  | a, b =>
    match a.number?, b.number? with
    | some m, some n => m.compare? n == some .eq
    | _, _ => false

namespace Entries

/-- The value under a key. -/
def find? (entries : Entries) (key : Value) : Option Value :=
  (List.find? (fun entry => entry.1.sameKey key) entries).map (·.2)

/-- The value under a text. -/
def get? (entries : Entries) (key : String) : Option Value := find? entries (.text key)

/-- Sets a key: in place when it is there, at the end when it is new. -/
def insert (key v : Value) : Entries → Entries
  | [] => [(key, v)]
  | entry :: rest =>
    if entry.1.sameKey key then (entry.1, v) :: rest else entry :: insert key v rest

/-- Sets every key of `new`, in its order. -/
def override (entries new : Entries) : Entries :=
  new.foldl (fun all (key, v) => insert key v all) entries

/-- Entries set one after the other: of equal keys the first gives the place, the last the
value. -/
def ofList (pairs : List (Value × Value)) : Entries := override [] pairs

end Entries

end BaseGateway
