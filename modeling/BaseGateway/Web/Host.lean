import BaseGateway.Decimal.Numeral
import BaseGateway.Text.Search

/-!
# Host addresses in numbers

The numeric addresses of hosts: four octets between points, or eight groups of hexadecimal digits
between colons, where one run of groups may be left out and the last two may be written as octets.
-/

namespace BaseGateway.Web

open Text

/-- A number up to 255 without needless noughts. -/
def isOctet (s : List Char) : Bool :=
  s.all Char.isDigit && 1 ≤ s.length && s.length ≤ 3 && (s == ['0'] || s.head? != some '0') &&
    Decimal.digitsValue s ≤ 255

def isOctetAddress (s : List Char) : Bool :=
  let octets := splitChars '.' s
  octets.length == 4 && octets.all isOctet

def isHexDigit (c : Char) : Bool :=
  c.isDigit || ('a' ≤ c && c ≤ 'f') || ('A' ≤ c && c ≤ 'F')

/-- A group of one to four hexadecimal digits. -/
def isGroup (s : List Char) : Bool := 1 ≤ s.length && s.length ≤ 4 && s.all isHexDigit

/-- The groups on one side of a gap; an empty end of the address is no group. -/
def sideLength? (groups : List (List Char)) : Option Nat :=
  if groups == [[]] then some 0 else if groups.all isGroup then some groups.length else none

/-- Groups in which the octets at the end count as two. -/
def expandOctets? (groups : List (List Char)) : Option (List (List Char)) :=
  match groups.getLast? with
  | some last =>
    if last.contains '.' then
      if isOctetAddress last then some (groups.dropLast ++ [['0'], ['0']]) else none
    else some groups
  | none => none

/-- Eight groups, or fewer with one gap. -/
def isGroupAddress (s : List Char) : Bool :=
  let groups := splitChars ':' s
  if groups.length < 3 then false
  else
    match expandOctets? groups with
    | none => false
    | some groups =>
      let inner := (groups.drop 1).dropLast
      match inner.count [] with
      | 0 => groups.length == 8 && groups.all isGroup
      | 1 =>
        let gap := 1 + inner.idxOf []
        match sideLength? (groups.take gap), sideLength? (groups.drop (gap + 1)) with
        | some before, some behind => before + behind ≤ 7
        | _, _ => false
      | _ => false

/-- A group address, perhaps with a zone behind a percent sign. -/
def isZonedAddress (s : List Char) : Bool :=
  match splitChars '%' s with
  | [address] => !s.contains '/' && isGroupAddress address
  | [address, zone] => !s.contains '/' && !zone.isEmpty && isGroupAddress address
  | _ => false

/-- An address of a form still to come: `v`, a version in hexadecimal, a point and anything. -/
def isFutureAddress (s : List Char) : Bool :=
  match s with
  | 'v' :: rest =>
    match rest.dropWhile isHexDigit with
    | '.' :: _ :: _ => rest.head?.any isHexDigit
    | _ => false
  | _ => false

end BaseGateway.Web
