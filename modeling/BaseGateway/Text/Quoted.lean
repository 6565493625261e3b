import BaseGateway.Text.Printable

/-!
# Quoted and percent-encoded text

Two forms in which a text stands inside another one.

A message shows it in single quotes, or in double quotes when it holds a single quote and no double
one. The quote in use and the backslash get a backslash, the tab and the two line breaks their
letters, and every other character that is not printable its number in hexadecimal.

In a path it is one segment: ASCII letters, digits and four marks stand for themselves, and every
other byte of the UTF-8 form is written as a percent sign and two hexadecimal digits.
-/

namespace BaseGateway.Text

/-- The last `width` hexadecimal digits of a number, in small letters. -/
def hexDigits (width n : Nat) : List Char :=
  (List.range width).reverse.map fun i => Nat.digitChar (n / Nat.pow 16 i % 16)

/-- The quote that a text is shown in. -/
def quoteFor (s : List Char) : Char :=
  if s.contains '\'' && !s.contains '"' then '"' else '\''

/-- One character between quotes. -/
def quotedChar (quote c : Char) : List Char :=
  if c == quote || c == '\\' then ['\\', c]
  else if c == '\t' then ['\\', 't']
  else if c == '\n' then ['\\', 'n']
  else if c == '\r' then ['\\', 'r']
  else if isPrintable c then [c]
  else if c.toNat ≤ 0xFF then '\\' :: 'x' :: hexDigits 2 c.toNat
  else if c.toNat ≤ 0xFFFF then '\\' :: 'u' :: hexDigits 4 c.toNat
  else '\\' :: 'U' :: hexDigits 8 c.toNat

/-- The characters of a quoted text. -/
def quotedChars (s : List Char) : List Char :=
  let quote := quoteFor s
  quote :: s.flatMap (quotedChar quote) ++ [quote]

/-- A text as it is shown inside a message. -/
def quoted (s : String) : String := String.ofList (quotedChars s.toList)

/-- The bytes of a text. -/
def utf8 (s : List Char) : List UInt8 := s.flatMap String.utf8EncodeChar

/-- A character that stands for itself in a segment. -/
def isUnreserved (c : Char) : Bool :=
  c.isAlphanum || c == '_' || c == '.' || c == '-' || c == '~'

/-- A byte as two hexadecimal digits in capitals behind a percent sign. -/
def percentByte (b : UInt8) : List Char :=
  ['%', (Nat.digitChar (b.toNat / 16)).toUpper, (Nat.digitChar (b.toNat % 16)).toUpper]

def percentChar (c : Char) : List Char :=
  if isUnreserved c then [c] else (String.utf8EncodeChar c).flatMap percentByte

/-- A text as one segment of a path. -/
def percentEncode (s : String) : String := String.ofList (s.toList.flatMap percentChar)

end BaseGateway.Text
