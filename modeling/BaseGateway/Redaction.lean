import BaseGateway.Text.Character
import BaseGateway.Text.Replace
import BaseGateway.Text.WordChar

/-!
# Redaction

Access tokens, base IDs and record IDs never show in a message. Each kind of secret has a form that
is looked for and a stand-in that is written in its place. Only the form of access tokens minds the
case of letters.
-/

namespace BaseGateway.Redaction

open Text

/-- The form of an ID: the letters of its kind in any case, then letters and digits, at least 14;
no more of them count unless the form is `open`. -/
def idLength? (kind : List Char) (isOpen : Bool) : Matcher := fun s =>
  (dropWord? kind s).bind fun rest =>
    let run := (rest.takeWhile isFoldedAlnum).length
    if 14 ≤ run then some (kind.length + if isOpen then run else 14) else none

/-- The form of an access token: `pat`, 14 letters or digits, and every word character and point
that follows. -/
def tokenLength? : Matcher := fun s =>
  match s with
  | 'p' :: 'a' :: 't' :: rest =>
    if 14 ≤ (rest.takeWhile isAsciiAlnum).length then
      some (17 + ((rest.drop 14).takeWhile fun c => isWordChar c || c == '.').length)
    else none
  | _ => none

/-- The form of an authorization header: `Bearer`, blanks, and what follows up to the next
blank. -/
def bearerLength? : Matcher := fun s =>
  (dropWord? "bearer".toList s).bind fun rest =>
    let blanks := (rest.takeWhile isBlank).length
    let run := ((rest.dropWhile isBlank).takeWhile (!isBlank ·)).length
    if blanks = 0 ∨ run = 0 then none else some (6 + blanks + run)

/-- A kind of secret: its form and its stand-in. -/
structure Rule where
  matcher : Matcher
  standIn : List Char

def tokenRule : Rule := ⟨tokenLength?, "pat***".toList⟩
def legacyKeyRule : Rule := ⟨idLength? "key".toList true, "key***".toList⟩
def baseRule : Rule := ⟨idLength? "app".toList false, "app***".toList⟩
def recordRule : Rule := ⟨idLength? "rec".toList false, "rec***".toList⟩
def bearerRule : Rule := ⟨bearerLength?, "Bearer ***".toList⟩

/-- The rules in the order in which they are applied. -/
def rules : List Rule := [tokenRule, legacyKeyRule, baseRule, recordRule, bearerRule]

def Rule.apply (r : Rule) (s : List Char) : List Char := replaceMatches r.matcher r.standIn s

/-- Applies every rule, one after the other. -/
def redactChars (s : List Char) : List Char := rules.foldl (fun s r => r.apply s) s

/-- A message without the secrets. -/
def redact (s : String) : String := String.ofList (redactChars s.toList)

end BaseGateway.Redaction
