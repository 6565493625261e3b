import BaseGateway.Text.Search

/-!
# Filter formulas

The trees behind the formulas that the service evaluates on each record, and their texts. In a
literal a single quote is written twice, the only escape there is; a reference to a field ends at
the first closing brace.
-/

namespace BaseGateway

inductive Relation where
  | equal
  | atLeast
  | atMost
  deriving DecidableEq, Repr

def Relation.chars : Relation → List Char
  | .equal => ['=']
  | .atLeast => ['>', '=']
  | .atMost => ['<', '=']

/-- What a field is compared with. -/
inductive Operand where
  | literal (s : List Char)
  | numeral (digits : List Char)
  deriving DecidableEq, Repr

inductive Formula where
  | literal (s : List Char)
  /-- The field of a name. -/
  | field (name : List Char)
  | call (function : List Char) (arguments : List Formula)
  /-- The field of a name against an operand. -/
  | test (name : List Char) (relation : Relation) (operand : Operand)
  /-- A text that a caller wrote. -/
  | verbatim (s : List Char)
  deriving Inhabited

namespace Formula

/-- A text with its quotes doubled. -/
def escapeQuotes (s : List Char) : List Char := Text.replaceChars '\'' ['\'', '\''] s

def literalChars (s : List Char) : List Char := '\'' :: escapeQuotes s ++ ['\'']

def fieldChars (name : List Char) : List Char := '\x7b' :: name ++ ['\x7d']

end Formula

def Operand.chars : Operand → List Char
  | .literal s => Formula.literalChars s
  | .numeral digits => digits

namespace Formula

mutual

/-- The text of a formula. -/
def chars : Formula → List Char
  | .literal s => literalChars s
  | .field name => fieldChars name
  | .call function arguments => function ++ '(' :: argumentChars arguments ++ [')']
  | .test name relation operand =>
    fieldChars name ++ ' ' :: relation.chars ++ ' ' :: operand.chars
  | .verbatim s => s

/-- The arguments of a call, a comma and a space between them. -/
def argumentChars : List Formula → List Char
  | [] => []
  | [f] => f.chars
  | f :: rest => f.chars ++ ',' :: ' ' :: argumentChars rest

end

def text (f : Formula) : String := String.ofList f.chars

/-- The formula that every record satisfies. -/
def always : Formula := .call "TRUE".toList []

/-- The formula that no record satisfies. -/
def never : Formula := .call "FALSE".toList []

def all (fs : List Formula) : Formula := .call "AND".toList fs

def any (fs : List Formula) : Formula := .call "OR".toList fs

def not (f : Formula) : Formula := .call "NOT".toList [f]

/-- One of the tests holds. A test by itself needs no call. -/
def oneOf : List Formula → Formula
  | [] => never
  | [f] => f
  | fs => any fs

/-- All of the tests hold. A test by itself needs no call. -/
def allOf : List Formula → Formula
  | [] => always
  | [f] => f
  | fs => all fs

/-- The formulas that are neither empty nor written like `neutral`. -/
def relevant (neutral : Formula) (fs : List Formula) : List Formula :=
  fs.filter fun f => !f.chars.isEmpty && f.chars != neutral.chars

end Formula

/-- How several formulas become one. -/
inductive Combination where
  | and
  | or
  deriving DecidableEq, Repr

/-- Combines formulas; those that change nothing are dropped. -/
def Combination.combine (c : Combination) (fs : List Formula) : Formula :=
  match c with
  | .and => .allOf (Formula.relevant .always fs)
  | .or => .oneOf (Formula.relevant .never fs)

end BaseGateway
