import BaseGateway.Decimal.Numeral
import BaseGateway.Fault

/-!
# Reading JSON

A reader for JSON texts that names the first problem and its place. Besides the standard it takes
`NaN`, `Infinity` and `-Infinity`; of equal keys the last gives the value. Each step returns the
rest of the text, and a problem is placed by the number of characters that were left. The recursion
is bounded by twice the length of the text, for a list or a dictionary takes two steps where it
begins. So documents are read however deep they are nested: the stack of a running program, which
gives out at some depth, is not part of the model. Main definition: `read`.
-/

namespace BaseGateway.Json

/-- What can be wrong with a text, as far as a step can tell. -/
inductive Problem where
  /-- The text is malformed where `left` characters are left. -/
  | malformed (what : String) (left : Nat)
  | tooManyDigits (digits : Nat)
  deriving DecidableEq, Repr

def isSpace (c : Char) : Bool := c == ' ' || c == '\t' || c == '\n' || c == '\r'

def skipSpace (s : List Char) : List Char := s.dropWhile isSpace

def hexValue? (c : Char) : Option Nat :=
  if c.isDigit then some (c.toNat - 48)
  else if 'a' ≤ c ∧ c ≤ 'f' then some (c.toNat - 87)
  else if 'A' ≤ c ∧ c ≤ 'F' then some (c.toNat - 55)
  else none

/-- The unit that four hexadecimal digits give, and the rest, which must not be empty. -/
def readUnit? (s : List Char) : Option (Nat × List Char) :=
  match s with
  | a :: b :: c :: d :: rest =>
    if rest.isEmpty then none
    else do
      return ((((← hexValue? a) * 16 + (← hexValue? b)) * 16 + (← hexValue? c)) * 16 +
        (← hexValue? d), rest)
  | _ => none

/-- The character of a short escape. -/
def unescape? (letter : Char) : Option Char :=
  match letter with
  | '"' => some '"'
  | '\\' => some '\\'
  | '/' => some '/'
  | 'b' => some '\x08'
  | 'f' => some '\x0c'
  | 'n' => some '\n'
  | 'r' => some '\r'
  | 't' => some '\t'
  | _ => none

def isHighSurrogate (n : Nat) : Bool := 0xD800 ≤ n && n < 0xDC00
def isLowSurrogate (n : Nat) : Bool := 0xDC00 ≤ n && n < 0xE000

/-- A unit by itself; one that is half of a pair shows as the replacement character. -/
def unitChar (n : Nat) : Char :=
  if isHighSurrogate n || isLowSurrogate n then '\uFFFD' else Char.ofNat n

/-- Reads a unit escape, behind the backslash and the `u`, and a second one when the two make a
pair. `left` is where the `u` stands. -/
def readUnitEscape (s : List Char) : Except Problem (Char × List Char) :=
  let bad (left : Nat) : Problem := .malformed "Invalid \\uXXXX escape" left
  match readUnit? s with
  | none => .error (bad (s.length + 1))
  | some (high, rest) =>
    match rest with
    | '\\' :: 'u' :: more =>
      if isHighSurrogate high && 4 < more.length then
        match readUnit? more with
        | none => .error (bad (more.length + 1))
        | some (low, rest') =>
          if isLowSurrogate low then
            .ok (Char.ofNat (0x10000 + (high - 0xD800) * 0x400 + (low - 0xDC00)), rest')
          else .ok (unitChar high, rest)
      else .ok (unitChar high, rest)
    | rest => .ok (unitChar high, rest)

/-- Reads a string up to its closing quote; the opening one stands where `start` characters are
left. -/
def readString (start : Nat) : Nat → List Char → Except Problem (List Char × List Char)
  | 0, _ => .error (.malformed "Unterminated string starting at" start)
  | _, [] => .error (.malformed "Unterminated string starting at" start)
  | _ + 1, '"' :: s => .ok ([], s)
  | _ + 1, ['\\'] => .error (.malformed "Unterminated string starting at" start)
  | fuel + 1, '\\' :: 'u' :: s => do
    let (c, rest) ← readUnitEscape s
    let (cs, rest) ← readString start fuel rest
    return (c :: cs, rest)
  | fuel + 1, '\\' :: letter :: s =>
    match unescape? letter with
    | none => .error (.malformed "Invalid \\escape" (s.length + 2))
    | some c => do
      let (cs, rest) ← readString start fuel s
      return (c :: cs, rest)
  | fuel + 1, c :: s =>
    if c.toNat < 0x20 then .error (.malformed "Invalid control character at" (s.length + 1))
    else do
      let (cs, rest) ← readString start fuel s
      return (c :: cs, rest)

/-- The digits of a whole number: a nought by itself, or digits that do not begin with one. -/
def wholeDigits (s : List Char) : List Char :=
  match s with
  | '0' :: _ => ['0']
  | s => s.takeWhile Char.isDigit

/-- A fraction: a point and at least one digit, or nothing. -/
def fractionDigits (s : List Char) : List Char :=
  match s with
  | '.' :: rest => rest.takeWhile Char.isDigit
  | _ => []

/-- An exponent with its mark, sign and digits, or nothing. -/
def exponentPart (s : List Char) : List Char :=
  match s with
  | mark :: rest =>
    if mark == 'e' || mark == 'E' then
      let (sign, digits) := match rest with
        | '+' :: r => (['+'], r.takeWhile Char.isDigit)
        | '-' :: r => (['-'], r.takeWhile Char.isDigit)
        | r => ([], r.takeWhile Char.isDigit)
      if digits.isEmpty then [] else mark :: (sign ++ digits)
    else []
  | [] => []

/-- Reads a number: an integer, or a float when there is a fraction or an exponent. -/
def readNumber (s : List Char) : Except Problem (Value × List Char) :=
  let (negative, body) := match s with
    | '-' :: r => (true, r)
    | r => (false, r)
  let whole := wholeDigits body
  let rest := body.drop whole.length
  let fraction := fractionDigits rest
  let rest := if fraction.isEmpty then rest else rest.drop (fraction.length + 1)
  let exponent := exponentPart rest
  let rest := rest.drop exponent.length
  if whole.isEmpty then .error (.malformed "Expecting value" s.length)
  else if fraction.isEmpty && exponent.isEmpty then
    if Decimal.maxDigits < whole.length then .error (.tooManyDigits whole.length)
    else
      let n : Int := Decimal.digitsValue whole
      .ok (.int (if negative then -n else n), rest)
  else
    let places := if fraction.isEmpty then [] else '.' :: fraction
    let x := (Decimal.readMagnitude? (whole ++ places ++ exponent)).getD 0.0
    .ok (.float (if negative then -x else x), rest)

/-- The names of values, with what they name. -/
def names : List (List Char × Value) :=
  [("null".toList, .null), ("true".toList, .bool true), ("false".toList, .bool false),
   ("NaN".toList, .float (0.0 / 0.0)), ("Infinity".toList, .float (1.0 / 0.0)),
   ("-Infinity".toList, .float (-1.0 / 0.0))]

/-- Reads a name or a number. -/
def readPlain (s : List Char) : Except Problem (Value × List Char) :=
  match names.find? (fun name => name.1.isPrefixOf s) with
  | some (name, v) => .ok (v, s.drop name.length)
  | none => readNumber s

mutual

/-- Reads a value that begins here. -/
def readValue : Nat → List Char → Except Problem (Value × List Char)
  | 0, s => .error (.malformed "Expecting value" s.length)
  | fuel + 1, s =>
    match s with
    | '"' :: r => do
      let (cs, rest) ← readString s.length fuel r
      return (.text (String.ofList cs), rest)
    | '[' :: r =>
      match skipSpace r with
      | ']' :: rest => .ok (.list [], rest)
      | r => do
        let (items, rest) ← readItems fuel r
        return (.list items, rest)
    | '\x7b' :: r =>
      match skipSpace r with
      | '\x7d' :: rest => .ok (.dictionary [], rest)
      | r => do
        let (entries, rest) ← readEntries fuel r
        return (.dictionary (Entries.ofList entries), rest)
    | s => readPlain s

/-- Reads items up to the closing bracket; at least one is there. -/
def readItems : Nat → List Char → Except Problem (List Value × List Char)
  | 0, s => .error (.malformed "Expecting value" s.length)
  | fuel + 1, s => do
    let (v, rest) ← readValue fuel s
    match skipSpace rest with
    | ']' :: rest => return ([v], rest)
    | ',' :: rest =>
      let (items, rest) ← readItems fuel (skipSpace rest)
      return (v :: items, rest)
    | rest => .error (.malformed "Expecting ',' delimiter" rest.length)

/-- Reads entries up to the closing brace; at least one is there. -/
def readEntries : Nat → List Char → Except Problem (List (Value × Value) × List Char)
  | 0, s => .error (.malformed "Expecting value" s.length)
  | fuel + 1, s => do
    match s with
    | '"' :: r =>
      let (key, rest) ← readString s.length fuel r
      match skipSpace rest with
      | ':' :: rest =>
        let (v, rest) ← readValue fuel (skipSpace rest)
        let entry : Value × Value := (.text (String.ofList key), v)
        match skipSpace rest with
        | '\x7d' :: rest => return ([entry], rest)
        | ',' :: rest =>
          let (entries, rest) ← readEntries fuel (skipSpace rest)
          return (entry :: entries, rest)
        | rest => .error (.malformed "Expecting ',' delimiter" rest.length)
      | rest => .error (.malformed "Expecting ':' delimiter" rest.length)
    | s => .error (.malformed "Expecting property name enclosed in double quotes" s.length)

end

/-- Reads one value and nothing behind it. -/
def readDocument (s : List Char) : Except Problem Value := do
  if s.head? == some '\uFEFF' then
    .error (.malformed "Unexpected UTF-8 BOM (decode using utf-8-sig)" s.length)
  else
    let (v, rest) ← readValue (2 * s.length + 1) (skipSpace s)
    match skipSpace rest with
    | [] => return v
    | rest => .error (.malformed "Extra data" rest.length)

/-- The place in a text where `left` characters are left. -/
def place (what : String) (s : List Char) (left : Nat) : DocumentProblem :=
  let before := s.take (s.length - left)
  let lastLine := before.reverse.takeWhile (· != '\n')
  ⟨what, before.count '\n' + 1, lastLine.length + 1, before.length⟩

/-- Reads a document. -/
def read (text : String) : Except Fault Value :=
  let s := text.toList
  match readDocument s with
  | .ok v => .ok v
  | .error (.malformed what left) => .error (.notJson (place what s left))
  | .error (.tooManyDigits digits) => .error (.tooManyDigitsIn digits)

end BaseGateway.Json
