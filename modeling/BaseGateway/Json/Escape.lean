import BaseGateway.Text.Quoted

/-!
# JSON strings in ASCII

A JSON string is written with ASCII characters alone. The quote, the backslash and five control
characters have short escapes; every other character outside the range from the space to the tilde
is written by its UTF-16 units.
-/

namespace BaseGateway.Json

/-- The letter of a character's short escape. -/
def shortEscape? (c : Char) : Option Char :=
  match c with
  | '"' => some '"'
  | '\\' => some '\\'
  | '\n' => some 'n'
  | '\r' => some 'r'
  | '\t' => some 't'
  | '\x0c' => some 'f'
  | '\x08' => some 'b'
  | _ => none

/-- A UTF-16 unit by its number. -/
def unitChars (n : Nat) : List Char := '\\' :: 'u' :: Text.hexDigits 4 n

/-- One character of a string. -/
def escapeChar (c : Char) : List Char :=
  match shortEscape? c with
  | some letter => ['\\', letter]
  | none =>
    if ' ' ≤ c ∧ c ≤ '~' then [c]
    else if c.toNat < 0x10000 then unitChars c.toNat
    else
      let n := c.toNat - 0x10000
      unitChars (0xD800 + n / 0x400) ++ unitChars (0xDC00 + n % 0x400)

/-- A string between its quotes. -/
def stringChars (s : List Char) : List Char := '"' :: s.flatMap escapeChar ++ ['"']

end BaseGateway.Json
