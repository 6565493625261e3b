import BaseGateway.Value.Display

/-!
# Faults

What goes wrong when data does not have the shape that an operation needs, when a number is out of
range, when a file is not there, or when the network layer gives up in a way that is not its own.
Every cause is a constructor; `Fault.message` has all wordings and `Fault.kind` groups the causes.
-/

namespace BaseGateway

/-- The kinds of faults that are told apart. -/
inductive FaultKind where
  /-- A dictionary lacks a key. -/
  | missingKey
  /-- An operation met a value of the wrong kind. -/
  | wrongKind
  /-- A value lacks an operation. -/
  | lacksOperation
  /-- A value has the right kind and a wrong content. -/
  | badContent
  /-- A position lies outside a list. -/
  | outsideList
  /-- A number is out of range. -/
  | overflow
  /-- A definition is missing. -/
  | missingName
  /-- A text is no JSON document. -/
  | badDocument
  /-- A file cannot be opened because a directory is in its place. -/
  | isDirectory
  /-- A file cannot be opened because its directory does not exist. -/
  | noDirectory
  /-- Anything else. -/
  | other
  deriving DecidableEq, Repr

/-- Where a JSON text goes wrong: what was found, and the position, counted from nought, with its
line and column. -/
structure DocumentProblem where
  what : String
  line : Nat
  column : Nat
  position : Nat
  deriving DecidableEq, Repr

def DocumentProblem.message (p : DocumentProblem) : String :=
  s!"{p.what}: line {p.line} column {p.column} (char {p.position})"

inductive Fault where
  | missingKey (key : Value)
  /-- A value of this kind has no operation of this name. -/
  | lacksOperation (kind operation : String)
  | notSubscriptable (kind : String)
  /-- A text was asked for the entry under a key. -/
  | textHasNoKeys
  /-- A list was asked for the entry under a key. -/
  | listHasNoKeys
  | notIterable (kind : String)
  /-- A text was looked for in a value of this kind. -/
  | notSearchable (kind : String)
  | notText (kind : String)
  /-- A value of this kind cannot be a key. -/
  | notKey (kind : String)
  /-- Texts were joined and one item is of this kind. -/
  | joinedNonText (index : Nat) (kind : String)
  | notConvertibleToInt (kind : String)
  | notConvertibleToFloat (kind : String)
  | malformedInt (text : String)
  | malformedFloat (text : String)
  | tooManyDigits
  | tooManyDigitsIn (digits : Nat)
  | tooLargeForFloat
  | infiniteToInt
  | nanToInt
  /-- There are more things than a list can hold. -/
  | tooMany
  /-- A document with a date or another value that JSON has no form for. -/
  | notWritable (kind : String)
  | keyNotWritable (kind : String)
  /-- The keys of a dictionary have no common order. -/
  | unorderedKeys
  /-- An entry of a list of pairs is no sequence. -/
  | pairNotSequence (index : Nat)
  /-- An entry of a list of pairs has another length. -/
  | pairLength (index length : Nat)
  | notJson (problem : DocumentProblem)
  | badAddress (what : String)
  /-- The list of recent requests was read at a position that it does not have. -/
  | noSuchRequest
  | missingName (name : String)
  /-- A call lacks an argument. -/
  | missingArgument (name : String)
  | unexpectedArgument (name : String)
  | isDirectory (path : String)
  | noDirectory (path : String)
  /-- A path with a null character, which no file can have. -/
  | nullInPath
  /-- A fault of the network layer with a text of its own. -/
  | transport (kind : FaultKind) (message : String)
  deriving Inhabited

namespace Fault

def kind : Fault → FaultKind
  | .missingKey _ => .missingKey
  | .lacksOperation .. => .lacksOperation
  | .notSubscriptable _ | .textHasNoKeys | .listHasNoKeys | .notIterable _ | .notSearchable _
  | .notText _ | .notKey _ | .joinedNonText .. | .notConvertibleToInt _ | .notConvertibleToFloat _
  | .notWritable _ | .keyNotWritable _ | .unorderedKeys | .pairNotSequence _
  | .missingArgument _ | .unexpectedArgument _ => .wrongKind
  | .malformedInt _ | .malformedFloat _ | .tooManyDigits | .tooManyDigitsIn _ | .nanToInt
  | .pairLength .. | .badAddress _ | .nullInPath => .badContent
  | .tooLargeForFloat | .infiniteToInt | .tooMany => .overflow
  | .notJson _ => .badDocument
  | .noSuchRequest => .outsideList
  | .missingName _ => .missingName
  | .isDirectory _ => .isDirectory
  | .noDirectory _ => .noDirectory
  | .transport k _ => k

/-- What a fault says. The key of a missing entry is quoted; a malformed integer is quoted up to
its two hundredth character. -/
def message : Fault → String
  | .missingKey key => key.quoted?.getD ""
  | .lacksOperation kind operation => s!"'{kind}' object has no attribute '{operation}'"
  | .notSubscriptable kind => s!"'{kind}' object is not subscriptable"
  | .textHasNoKeys => "string indices must be integers, not 'str'"
  | .listHasNoKeys => "list indices must be integers or slices, not str"
  | .notIterable kind => s!"'{kind}' object is not iterable"
  | .notSearchable kind => s!"argument of type '{kind}' is not iterable"
  | .notText kind => s!"expected string or bytes-like object, got '{kind}'"
  | .notKey kind => s!"unhashable type: '{kind}'"
  | .joinedNonText index kind => s!"sequence item {index}: expected str instance, {kind} found"
  | .notConvertibleToInt kind =>
    s!"int() argument must be a string, a bytes-like object or a real number, not '{kind}'"
  | .notConvertibleToFloat kind =>
    s!"float() argument must be a string or a real number, not '{kind}'"
  | .malformedInt text =>
    let shown := String.ofList ((Text.quoted text).toList.take 200)
    s!"invalid literal for int() with base 10: {shown}"
  | .malformedFloat text => s!"could not convert string to float: {Text.quoted text}"
  | .tooManyDigits =>
    "Exceeds the limit (4300 digits) for integer string conversion; " ++
      "use sys.set_int_max_str_digits() to increase the limit"
  | .tooManyDigitsIn digits =>
    "Exceeds the limit (4300 digits) for integer string conversion: value has " ++
      s!"{digits} digits; use sys.set_int_max_str_digits() to increase the limit"
  | .tooLargeForFloat => "int too large to convert to float"
  | .infiniteToInt => "cannot convert float infinity to integer"
  | .nanToInt => "cannot convert float NaN to integer"
  | .tooMany => "cannot fit 'int' into an index-sized integer"
  | .notWritable kind => s!"Object of type {kind} is not JSON serializable"
  | .keyNotWritable kind => s!"keys must be str, int, float, bool or None, not {kind}"
  | .unorderedKeys => "'<' not supported between instances of 'str' and 'int'"
  | .pairNotSequence index =>
    s!"cannot convert dictionary update sequence element #{index} to a sequence"
  | .pairLength index length =>
    s!"dictionary update sequence element #{index} has length {length}; 2 is required"
  | .notJson problem => problem.message
  | .badAddress what => what
  | .noSuchRequest => "list index out of range"
  | .missingName name => s!"name '{name}' is not defined"
  | .missingArgument name => s!"missing required argument: '{name}'"
  | .unexpectedArgument name => s!"got an unexpected keyword argument '{name}'"
  | .isDirectory path => s!"[Errno 21] Is a directory: {Text.quoted path}"
  | .noDirectory path => s!"[Errno 2] No such file or directory: {Text.quoted path}"
  | .nullInPath => "embedded null byte"
  | .transport _ message => message

end Fault

end BaseGateway
