import BaseGateway.Formula.Age
import BaseGateway.Json.Reader
import BaseGateway.Json.Writer

/-!
# Stored settings

Settings that are no secrets are kept in a file, a JSON document of names and values. What the file
says overrides the defaults; a file that is no document is passed over with a warning. Names that
could stand for a secret are never written.
-/

namespace BaseGateway

/-- What is found in the place of a file. -/
inductive FileContent where
  | missing
  | text (s : String)
  | directory
  deriving DecidableEq, Repr

/-- The file of the settings: where it is and what it holds. -/
structure SettingsFile where
  path : String
  content : FileContent := .missing

namespace Settings

/-- The labels of the age buckets that are looked for when a query names none. -/
def defaultAgeRanges : List String := ["12-17", "18-24", "25-34", "35-44", "45-65", "65+"]

def defaults : Entries :=
  [(.text "default_base_id", .text ""), (.text "request_timeout", .int 30),
   (.text "max_requests_per_second", .int 5), (.text "log_level", .text "INFO"),
   (.text "exclude_attachments_default", .bool true),
   (.text "default_age_ranges", .ofTexts defaultAgeRanges)]

/-- An entry given by a sequence of two. -/
def pairEntry (index : Nat) (v : Value) : Except Fault (Value × Value) := do
  match v.parts with
  | .error _ => throw (.pairNotSequence index)
  | .ok [key, v] =>
    key.requireKey
    return (key, v)
  | .ok other => throw (.pairLength index other.length)

/-- The entries that a document stands for: its own, or those of a sequence of pairs. -/
def entriesOf (document : Value) : Except Fault Entries :=
  match document with
  | .dictionary entries => .ok entries
  | v => do
    let parts ← v.parts
    parts.zipIdx.mapM fun (part, index) => pairEntry index part

/-- The settings in the text of a file. -/
def ofText (s : String) : Except Fault Entries := do
  let document ← Json.read (String.ofList (Text.plainLineEnds s.toList))
  return Entries.override defaults (← entriesOf document)

/-- Faults with what a file says are survived, those with the kind of its parts are not. -/
def isSurvivable (f : Fault) : Bool :=
  match f.kind with
  | .badContent | .badDocument | .isDirectory => true
  | _ => false

/-- The settings that a file stands for. -/
def ofFile (file : SettingsFile) : Except Fault Entries :=
  match file.content with
  | .missing => .ok defaults
  | .directory => .error (.isDirectory file.path)
  | .text s => ofText s

/-- The settings in force. -/
def load (file : SettingsFile) : Logged Entries :=
  match ofFile file with
  | .ok entries => pure entries
  | .error f =>
    if isSurvivable f then do
      Logged.note .warning s!"Could not parse runtime config: {f.message}. Using defaults."
      return defaults
    else throw (.fault f)

/-- Could a name stand for a secret? -/
def isSecretName (name : String) : Bool :=
  let small := Text.lower name
  ["token", "pat", "secret", "api_key", "apikey"].any (Text.contains small)

/-- Is an entry one to be written? -/
def isKept (key : Value) : Except Fault Bool :=
  match key with
  | .text name => .ok (!name.startsWith "_" && !isSecretName name)
  | v => .error (.lacksOperation v.longKindName "startswith")

/-- The entries that may be written. -/
def safeEntries (config : Entries) : Except Fault Entries :=
  config.filterM fun (key, _) => isKept key

/-- What saving leaves behind: what the file holds, why saving failed if it did, and what the
journal is told. -/
structure Saved where
  content : FileContent
  fault : Option Fault := none
  notes : List Note := []

/-- The notice of a file that was written. -/
def savedNotice (file : SettingsFile) : String := s!"Configuration saved to {file.path}"

/-- Writes settings in place of a file. A document that cannot be finished leaves what was written
of it, and only one that is finished is told of. -/
def save (config : Entries) (file : SettingsFile) : Saved :=
  match safeEntries config with
  | .error f => { content := file.content, fault := some f }
  | .ok entries =>
    match file.content with
    | .directory => { content := .directory, fault := some (.isDirectory file.path) }
    | _ =>
      let written := Json.document (.page false) (.dictionary entries)
      { content := .text (String.ofList written.chars)
        fault := written.fault
        notes := if written.fault.isNone then [⟨.info, savedNotice file⟩] else [] }

/-- How saving ends: the journal is told, and a fault is passed on. -/
def Saved.outcome (saved : Saved) : Logged Unit := do
  modifyThe Journal (·.writeAll saved.notes)
  match saved.fault with
  | some f => throw (.fault f)
  | none => return ()

/-- A setting by its name. -/
def get (config : Entries) (name : String) : Value := (Entries.get? config name).getD .null

/-- The labels of age buckets to look for when a query names none. -/
def ageRanges (file : SettingsFile) : Logged (List Value) := do
  let ranges := get (← load file) "default_age_ranges"
  if ranges.isGiven then Logged.ofFault ranges.parts
  else return defaultAgeRanges.map .text

/-- The labels in force. -/
def ageLabels (file : SettingsFile) : Logged AgeLabels := do
  return AgeLabels.ofValues (← ageRanges file)

end Settings

end BaseGateway
