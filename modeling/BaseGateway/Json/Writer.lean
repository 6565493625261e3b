import BaseGateway.Fault
import BaseGateway.Json.Escape

/-!
# Writing JSON

A document is written on one line, or with every item on a line of its own. Keys that are numbers
or truth values are written as strings. Dates have no JSON form: they are written as strings or
stop the writer, as the style says. A writer that stops leaves what it has written so far. Values of
any depth are written: the stack of a running program, which bounds how deep they may be nested, is
not part of the model.
-/

namespace BaseGateway.Json

/-- How a document is laid out. -/
structure Style where
  /-- Spaces by which each level is set in; `none` puts everything on one line. -/
  indent : Option Nat
  /-- Dates are written as strings. -/
  dates : Bool

/-- What was written, and why the writer stopped if it did. -/
structure Written where
  chars : List Char
  fault : Option Fault := none

namespace Written

def ofString (s : String) : Written := ⟨s.toList, none⟩

def stop (f : Fault) : Written := ⟨[], some f⟩

/-- First one text, then the other unless the writer stopped. -/
def append (a b : Written) : Written :=
  match a.fault with
  | some f => ⟨a.chars, some f⟩
  | none => ⟨a.chars ++ b.chars, b.fault⟩

instance : Append Written := ⟨append⟩

/-- The whole text, or the fault that stopped the writer. -/
def toExcept (w : Written) : Except Fault String :=
  match w.fault with
  | some f => .error f
  | none => .ok (String.ofList w.chars)

end Written

/-- A float as a JSON number, or as the name of what is not one. -/
def floatChars (x : Float) : List Char :=
  match Decimal.Reading.ofFloat x with
  | .nan => "NaN".toList
  | .infinite negative => (if negative then "-Infinity" else "Infinity").toList
  | .finite .. => Decimal.floatChars x

def boolChars (b : Bool) : List Char := (if b then "true" else "false").toList

/-- A key as the text that is written for it. -/
def keyText (key : Value) : Except Fault (List Char) :=
  match key with
  | .text s => .ok s.toList
  | .float x => .ok (floatChars x)
  | .bool b => .ok (boolChars b)
  | .null => .ok "null".toList
  | .int n =>
    match Decimal.intText? n with
    | some s => .ok s.toList
    | none => .error .tooManyDigits
  | v => .error (.keyNotWritable v.kindName)

/-- A scalar, or `none` for a list or a dictionary. -/
def scalar? (style : Style) (v : Value) : Option Written :=
  match v with
  | .null => some (.ofString "null")
  | .bool b => some ⟨boolChars b, none⟩
  | .int n =>
    match Decimal.intText? n with
    | some s => some (.ofString s)
    | none => some (.stop .tooManyDigits)
  | .float x => some ⟨floatChars x, none⟩
  | .text s => some ⟨stringChars s.toList, none⟩
  | .date d =>
    some (if style.dates then ⟨stringChars d.text.toList, none⟩ else .stop (.notWritable "date"))
  | .dateTime t =>
    some (if style.dates then ⟨stringChars t.text.toList, none⟩
      else .stop (.notWritable "datetime"))
  | .list _ | .dictionary _ => none

/-- A line break and the indentation of a level, where the style has lines. -/
def Style.newline (style : Style) (level : Nat) : List Char :=
  match style.indent with
  | none => []
  | some width => '\n' :: List.replicate (width * level) ' '

/-- What stands between two items of a level. -/
def Style.comma (style : Style) (level : Nat) : List Char :=
  match style.indent with
  | none => [',', ' ']
  | some _ => ',' :: style.newline level

/-- Writes a key and the colon behind it, after `before`. -/
def writeKey (before : List Char) (key : Value) : Written :=
  match keyText key with
  | .error f => .stop f
  | .ok k => ⟨before ++ stringChars k ++ [':', ' '], none⟩

/-- Writes `before` in front of an item; an integer that has no text stops the writer first. -/
def writeBefore (before : List Char) (v : Value) : Written :=
  match v with
  | .int n => if (Decimal.intText? n).isSome then ⟨before, none⟩ else .stop .tooManyDigits
  | _ => ⟨before, none⟩

mutual

/-- Writes a value that stands on a level. -/
def write (style : Style) (level : Nat) : Value → Written
  | .list [] => .ofString "[]"
  | .list (v :: rest) =>
    writeBefore ('[' :: style.newline (level + 1)) v ++ write style (level + 1) v ++
      writeItems style (level + 1) rest ++ ⟨style.newline level ++ [']'], none⟩
  | .dictionary [] => .ofString "\x7b\x7d"
  | .dictionary ((key, v) :: rest) =>
    ⟨'\x7b' :: style.newline (level + 1), none⟩ ++ writeKey [] key ++
      write style (level + 1) v ++ writeEntries style (level + 1) rest ++
      ⟨style.newline level ++ ['\x7d'], none⟩
  | v => (scalar? style v).getD (.ofString "")

/-- Writes the items behind the first. -/
def writeItems (style : Style) (level : Nat) : List Value → Written
  | [] => .ofString ""
  | v :: rest =>
    writeBefore (style.comma level) v ++ write style level v ++ writeItems style level rest

/-- Writes the entries behind the first. -/
def writeEntries (style : Style) (level : Nat) : List (Value × Value) → Written
  | [] => .ofString ""
  | (key, v) :: rest =>
    writeKey (style.comma level) key ++ write style level v ++ writeEntries style level rest

end

/-- One line, dates as strings. -/
def Style.line : Style := ⟨none, true⟩

/-- A line for every item, set in by two spaces. -/
def Style.page (dates : Bool) : Style := ⟨some 2, dates⟩

/-- A whole document. -/
def document (style : Style) (v : Value) : Written := write style 0 v

end BaseGateway.Json
