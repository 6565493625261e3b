import BaseGateway.Text.Character
import BaseGateway.Value.Access

/-!
# Which fields a listing asks for

Attachments and long texts make answers too large to be useful, so fields can be left out by the
words in their names, or picked by a preset.
-/

namespace BaseGateway

/-- A form of a name that is looked for. -/
inductive NamePattern where
  | word (w : List Char)
  /-- One word and then another on the same line. -/
  | words (first second : List Char)
  deriving DecidableEq, Repr

namespace NamePattern

/-- Does a form of the word begin anywhere in the text? -/
def hasWord (w : List Char) : List Char → Bool
  | [] => w.isEmpty
  | c :: s => (Text.dropWord? w (c :: s)).isSome || hasWord w s

/-- Does the second word follow the first on the same line? -/
def hasWords (first second : List Char) : List Char → Bool
  | [] => false
  | c :: s =>
    (match Text.dropWord? first (c :: s) with
      | some rest => hasWord second (rest.takeWhile (· != '\n'))
      | none => false) || hasWords first second s

def isIn (p : NamePattern) (s : List Char) : Bool :=
  match p with
  | .word w => hasWord w s
  | .words first second => hasWords first second s

end NamePattern

def attachmentPatterns : List NamePattern :=
  ["headshot", "photo", "image", "picture", "sample", "video", "attachment", "file", "media",
    "screenshot", "living room", "bathroom", "home photos", "current setup", "dropbox"].map
      (fun w => .word w.toList) ++
  [.words "ai".toList "image".toList, .words "generated".toList "image".toList]

def longTextPatterns : List NamePattern :=
  ["feedback", "note", "description", "bio", "comments", "summary", "content"].map
      (fun w => .word w.toList) ++
  [.words "additional".toList "notes".toList, .words "project".toList "notes".toList,
   .words "rich".toList "text".toList, .words "ai".toList "text".toList,
   .words "generated".toList "text".toList]

def isAttachmentName (name : String) : Bool := attachmentPatterns.any (·.isIn name.toList)

def isLongTextName (name : String) : Bool := longTextPatterns.any (·.isIn name.toList)

/-- The fields of the presets; `none` for a preset that leaves nothing out, or is none. -/
def presetFields? (preset : String) : Option (List String) :=
  match preset with
  | "minimal" => some ["Creator Name", "First Name", "Last Name", "Email"]
  | "contact" =>
    some ["Creator Name", "First Name", "Last Name", "Email", "Phone Number", "Instagram Handle",
      "TikTok Handle", "Instagram URL", "TikTok URL"]
  | "summary" =>
    some ["Creator Name", "First Name", "Last Name", "Email", "Phone Number", "Age", "Gender",
      "Status", "Creator Type", "Pros", "Cons", "Total # of Clients", "Country", "State", "City"]
  | _ => none

/-- The fields of a preset, those alone that the table has when its fields are known. -/
def presetSelection? (preset : String) (known : Option (List Value)) : Option (List String) :=
  (presetFields? preset).map fun names =>
    match known with
    | none => names
    | some known => names.filter fun name => known.any (Value.sameKey (.text name))

/-- What a listing leaves out. -/
structure Exclusions where
  fields : List String := []
  attachments : Bool := false
  longText : Bool := false
  preset : Option String := none

/-- Is anything left out at all? -/
def Exclusions.isGiven (e : Exclusions) : Bool :=
  !e.fields.isEmpty || e.attachments || e.longText || e.preset.any (!·.isEmpty)

/-- A name that words can be looked for in. -/
def searchable (name : Value) : Except Fault String :=
  match name with
  | .text s => .ok s
  | v => .error (.notText v.longKindName)

/-- Is a name in a list? -/
def isListed (fields : List String) (name : Value) : Except Fault Bool := do
  name.requireKey
  return fields.any fun field => name.sameKey (.text field)

/-- The names that a test does not mark, all of them when the test does not apply. -/
def leaveOut (applies : Bool) (test : Value → Except Fault Bool) (names : List Value) :
    Except Fault (List Value) :=
  if applies then names.filterM fun name => return !(← test name) else .ok names

/-- No more than a limit when there is one. -/
def upTo (limit : Option Int) (names : List Value) : List Value :=
  match limit with
  | some n => if 0 < n then names.take n.toNat else names
  | none => names

/-- The fields that are left. -/
def Exclusions.remaining (e : Exclusions) (limit : Option Int) (names : List Value) :
    Except Fault (List Value) := do
  let names ← leaveOut (!e.fields.isEmpty) (isListed e.fields) names
  let names ← leaveOut e.attachments (fun name => return isAttachmentName (← searchable name)) names
  let names ← leaveOut e.longText (fun name => return isLongTextName (← searchable name)) names
  return upTo limit names

/-- The fields to ask for, or `none` for all of them: those that are wanted, else those of the
preset, else those that are left. The service may give a field a name that is no text. -/
def selectFields (names : List Value) (wanted : List String) (e : Exclusions)
    (limit : Option Int) : Except Fault (Option (List Value)) := do
  if !wanted.isEmpty then return some (wanted.map .text)
  else
    match e.preset.bind presetFields? with
    | some _ =>
      names.forM Value.requireKey
      return (e.preset.bind (presetSelection? · (some names))).map (·.map .text)
    | none =>
      let left ← e.remaining limit names
      return if left.length = names.length then none else some left

end BaseGateway
