import BaseGateway.Text.Case
import BaseGateway.Value.Access
import BaseGateway.Web.Host

/-!
# Web addresses

A text is taken apart into the scheme, the host part behind two slashes and the path. Most texts
are addresses of some kind; a host part with a broken numeric address, or with a character that
stands for a delimiter in disguise, is at fault.
-/

namespace BaseGateway.Web

open Text

/-- The parts of an address that tell whether it leads anywhere. -/
structure Address where
  scheme : List Char
  host : List Char
  path : List Char
  deriving DecidableEq, Repr

/-- Schemes whose path ends at the first semicolon of its last segment. -/
def parameterSchemes : List (List Char) :=
  ["", "ftp", "hdl", "prospero", "http", "imap", "https", "shttp", "rtsp", "rtsps", "rtspu", "sip",
   "sips", "mms", "sftp", "tel"].map String.toList

/-- Characters that a delimiter of an address is a compatible form of, as the sign for care-of is
of a slash between two letters. -/
def disguisedDelimiters : List Nat :=
  [8263, 8264, 8265, 8448, 8449, 8453, 8454, 10868, 65043, 65046, 65109, 65110, 65119, 65131, 65283,
   65295, 65306, 65311, 65312]

def isSchemeChar (c : Char) : Bool := c.isAlphanum || c == '+' || c == '-' || c == '.'

/-- The scheme in small letters and the rest; no scheme when what stands before the first colon is
none. -/
def splitScheme (s : List Char) : List Char × List Char :=
  let name := s.takeWhile (· != ':')
  match s.dropWhile (· != ':') with
  | _ :: rest =>
    if name.head?.any Char.isAlpha && name.all isSchemeChar then (name.map Char.toLower, rest)
    else ([], s)
  | [] => ([], s)

/-- The host and its port, without the user in front of the last at sign. -/
def withoutUser (host : List Char) : List Char :=
  (host.reverse.takeWhile (· != '@')).reverse

/-- A numeric address in brackets. -/
def checkBracketed (s : List Char) : Except Fault Unit :=
  if s.head? == some 'v' then
    if isFutureAddress s then .ok () else .error (.badAddress "IPvFuture address is invalid")
  else if isOctetAddress s then .error (.badAddress "An IPv4 address cannot be in brackets")
  else if isZonedAddress s then .ok ()
  else
    .error (.badAddress
      s!"{quoted (String.ofList s)} does not appear to be an IPv4 or IPv6 address")

/-- Brackets enclose the whole host, and nothing but a port may stand behind them. Brackets in the
name of a user ask for a numeric host all the same. -/
def checkBrackets (host : List Char) : Except Fault Unit :=
  let stray : Except Fault Unit := .error (.badAddress "Invalid IPv6 URL")
  match host.contains '[', host.contains ']' with
  | true, true =>
    match withoutUser host with
    | '[' :: rest =>
      match (rest.dropWhile (· != ']')).drop 1 with
      | [] | ':' :: _ => checkBracketed (rest.takeWhile (· != ']'))
      | _ => stray
    | rest => if rest.contains '[' then stray else checkBracketed (rest.takeWhile (· != ':'))
  | false, false => .ok ()
  | _, _ => stray

def checkDisguise (host : List Char) : Except Fault Unit :=
  if host.any fun c => disguisedDelimiters.contains c.toNat then
    .error (.badAddress
      s!"netloc '{String.ofList host}' contains invalid characters under NFKC normalization")
  else .ok ()

/-- The path before its parameters. -/
def dropParameters (path : List Char) : List Char :=
  let last := (path.reverse.takeWhile (· != '/')).reverse
  path.take (path.length - last.length) ++ last.takeWhile (· != ';')

/-- Takes a text apart. Control characters and spaces in front do not count, nor do tabs and line
breaks anywhere. -/
def Address.ofText (s : String) : Except Fault Address := do
  let body := (s.toList.dropWhile fun c => c.toNat ≤ 32).filter fun c =>
    c != '\t' && c != '\r' && c != '\n'
  let (scheme, rest) := splitScheme body
  let isDelimiter (c : Char) : Bool := c == '/' || c == '?' || c == '#'
  let (host, rest) := match rest with
    | '/' :: '/' :: r => (r.takeWhile (!isDelimiter ·), r.dropWhile (!isDelimiter ·))
    | r => ([], r)
  checkBrackets host
  checkDisguise host
  let path := (rest.takeWhile (· != '#')).takeWhile (· != '?')
  return ⟨scheme, host, if parameterSchemes.contains scheme then dropParameters path else path⟩

/-- Does the address have a scheme, and a host or a path? -/
def Address.leadsSomewhere (a : Address) : Bool :=
  !a.scheme.isEmpty && !(a.host.isEmpty && a.path.isEmpty)

end BaseGateway.Web
