/-!
# Characters

Kinds of characters in every script: blanks, which trimming removes from both ends of a text,
decimal digits, and the letters that count as ASCII ones where capitals and small letters are not
told apart. A property of the Unicode standard is stored as the ascending list of code points at
which it begins or ends to hold. All tables of this library follow version 14.0 of the standard.
-/

namespace BaseGateway.Text

/-- Membership in the set whose ascending list of change points is `flips`. -/
def inFlips (flips : List Nat) (n : Nat) : Bool :=
  flips.countP (· ≤ n) % 2 == 1

/-! ## Blanks -/

def blankFlips : List Nat :=
  [9, 14, 28, 33, 133, 134, 160, 161, 5760, 5761, 8192, 8203, 8232, 8234, 8239, 8240, 8287, 8288,
   12288, 12289]

/-- White space in the wide sense: the property of the standard, and the four information separators
U+001C to U+001F. -/
def isBlank (c : Char) : Bool := inFlips blankFlips c.toNat

/-- White space among the ASCII characters. -/
def isAsciiBlank (c : Char) : Bool :=
  c == ' ' || (9 ≤ c.toNat && c.toNat ≤ 13)

/-- The characters without the blanks at either end. -/
def trimChars (s : List Char) : List Char :=
  ((s.dropWhile isBlank).reverse.dropWhile isBlank).reverse

/-- The text without the blanks at either end. -/
def trim (s : String) : String := String.ofList (trimChars s.toList)

/-! ## Digits -/

/-- The code points of the digits nought. Every script's digits stand in ten consecutive ones. -/
def digitZeros : List Nat :=
  [48, 1632, 1776, 1984, 2406, 2534, 2662, 2790, 2918, 3046, 3174, 3302, 3430, 3558, 3664, 3792,
   3872, 4160, 4240, 6112, 6160, 6470, 6608, 6784, 6800, 6992, 7088, 7232, 7248, 42528, 43216,
   43264, 43472, 43504, 43600, 44016, 65296, 66720, 68912, 69734, 69872, 69942, 70096, 70384,
   70736, 70864, 71248, 71360, 71472, 71904, 72016, 72784, 73040, 73120, 92768, 92864, 93008,
   120782, 120792, 120802, 120812, 120822, 123200, 123632, 125264, 130032]

/-- The value of a decimal digit of any script. -/
def digitValue? (c : Char) : Option Nat :=
  (digitZeros.find? fun z => z ≤ c.toNat && c.toNat < z + 10).map (c.toNat - ·)

/-! ## Forms of ASCII letters -/

/-- The small ASCII letter that a character is a form of, and any other character itself. A handful
of letters outside ASCII are forms of one: the Kelvin sign, the long s, the dotted capital I and the
dotless small i. -/
def foldLetter (c : Char) : Char :=
  if c.toNat == 0x212A then 'k'
  else if c.toNat == 0x17F then 's'
  else if c.toNat == 0x130 || c.toNat == 0x131 then 'i'
  else c.toLower

/-- A form of an ASCII letter, or an ASCII digit. -/
def isFoldedAlnum (c : Char) : Bool := (foldLetter c).isAlphanum

/-- What follows `word` at the start of the text, when the text starts with a form of it. -/
def dropWord? : List Char → List Char → Option (List Char)
  | [], s => some s
  | _ :: _, [] => none
  | w :: word, c :: s => if foldLetter c == w then dropWord? word s else none

end BaseGateway.Text
