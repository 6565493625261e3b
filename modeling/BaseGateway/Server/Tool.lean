import BaseGateway.Server.Handler
import BaseGateway.Server.State

/-!
# Tools

The tools that a language model can call. Every call of a tool ends with a text or with a report of
what went wrong, both of them JSON, and leaves an entry in the audit trail.
-/

namespace BaseGateway

inductive Tool where
  | listBases
  | listTables
  | getTableSchema
  | listRecords
  | getRecord
  | createRecord
  | updateRecord
  | deleteRecord
  | setTableSchema
  | queryByAgeRange
  | queryMultipleSelect
  | smartQuery
  | batchCreateRecords
  | batchUpdateRecords
  | batchDeleteRecords
  | getServerStatus
  deriving DecidableEq, Repr

/-- An argument of a tool, and what stands in for it; nothing does for one that is needed. -/
structure Parameter where
  name : String
  default? : Option Value

namespace Parameter

def needed (name : String) : Parameter := ⟨name, none⟩

def optional (name : String) : Parameter := ⟨name, some .null⟩

end Parameter

/-- How a call of a tool ends. -/
inductive ToolOutcome where
  | text (s : String)
  | failed (report : String)
  deriving DecidableEq, Repr

namespace Tool

/-- The tools by their short names. -/
def table : List (String × Tool) :=
  [("list_bases", .listBases), ("list_tables", .listTables),
   ("get_table_schema", .getTableSchema), ("list_records", .listRecords),
   ("get_record", .getRecord), ("create_record", .createRecord),
   ("update_record", .updateRecord), ("delete_record", .deleteRecord),
   ("set_table_schema", .setTableSchema), ("query_by_age_range", .queryByAgeRange),
   ("query_multiple_select", .queryMultipleSelect), ("smart_query", .smartQuery),
   ("batch_create_records", .batchCreateRecords), ("batch_update_records", .batchUpdateRecords),
   ("batch_delete_records", .batchDeleteRecords), ("get_server_status", .getServerStatus)]

def ofName? (name : String) : Option Tool :=
  (table.find? fun entry => entry.1 == name).map (·.2)

def shortName (t : Tool) : String :=
  ((table.find? fun entry => entry.2 == t).map (·.1)).getD ""

/-- The name under which clients call a tool. -/
def name (t : Tool) : String := "airtable_" ++ t.shortName

/-- The arguments of a tool. -/
def parameters : Tool → List Parameter
  | .listBases | .getServerStatus => []
  | .listTables => [.optional "base_id"]
  | .getTableSchema => [.needed "table", .optional "base_id", ⟨"refresh", some (.bool false)⟩]
  | .listRecords =>
    [.needed "table", .optional "base_id", .optional "filter_by_formula", .optional "max_records",
     .optional "view", .optional "fields", .optional "exclude_fields",
     .optional "exclude_attachments", .optional "exclude_long_text", .optional "preset",
     .optional "sort"]
  | .getRecord | .deleteRecord => [.needed "table", .needed "record_id", .optional "base_id"]
  | .createRecord | .setTableSchema => [.needed "table", .needed "fields", .optional "base_id"]
  | .updateRecord =>
    [.needed "table", .needed "record_id", .needed "fields", .optional "base_id"]
  | .queryByAgeRange =>
    [.needed "table", .needed "min_age", .needed "max_age", .optional "base_id",
     .optional "age_field_name", .optional "available_age_ranges", .optional "additional_filters",
     .optional "max_records", .optional "fields"]
  | .queryMultipleSelect =>
    [.needed "table", .needed "field_name", .needed "match_type", .needed "values",
     .optional "base_id", .optional "available_options", ⟨"use_fuzzy_match", some (.bool true)⟩,
     .optional "additional_filters", .optional "max_records", .optional "fields"]
  | .smartQuery =>
    [.needed "table", .needed "conditions", .optional "base_id",
     ⟨"combine_with", some (.text "AND")⟩, .optional "max_records", .optional "fields",
     .optional "sort"]
  | .batchCreateRecords => [.needed "table", .needed "records", .optional "base_id"]
  | .batchUpdateRecords => [.needed "table", .needed "updates", .optional "base_id"]
  | .batchDeleteRecords => [.needed "table", .needed "record_ids", .optional "base_id"]

/-- The value of an argument. -/
def Parameter.value (p : Parameter) (given : Entries) : Except Fault (Value × Value) :=
  match (Entries.get? given p.name).or p.default? with
  | some v => .ok (.text p.name, v)
  | none => .error (.missingArgument p.name)

/-- The arguments of a call, those that are null left out. -/
def arguments (t : Tool) (given : Entries) : Except Fault Entries := do
  let known (key : Value) : Bool := t.parameters.any fun p => key.sameKey (.text p.name)
  match List.find? (fun entry => !known entry.1) given with
  | some (key, _) => throw (.unexpectedArgument (key.text?.getD ""))
  | none =>
    let all ← t.parameters.mapM fun p => Parameter.value p given
    return all.filter fun (_, v) => !v.isNull

variable {τ : Type} [Add τ] [Sub τ] [OfNat τ 0] [LT τ] [DecidableLT τ] [Duration τ]

/-- The handler of a tool that needs the client; none for the status of the server. -/
def handler? (t : Tool) (settings : SettingsFile) (a : Account) (args : Value) :
    Option (Operation τ Value) :=
  match t with
  | .listBases => some (Handler.listBases a)
  | .listTables => some (Handler.listTables a args)
  | .getTableSchema => some (Handler.tableSchema a args)
  | .listRecords => some (Handler.listRecords settings a args)
  | .getRecord => some (Handler.getRecord a args)
  | .createRecord => some (Handler.createRecord a args)
  | .updateRecord => some Handler.updateRecord
  | .deleteRecord => some (Handler.deleteRecord a args)
  | .setTableSchema => some (Handler.setTableSchema a args)
  | .queryByAgeRange => some (Handler.queryByAge settings a args)
  | .queryMultipleSelect => some (Handler.queryByOptions settings a args)
  | .smartQuery => some (Handler.smartQuery settings a args)
  | .batchCreateRecords => some (Handler.createRecords a args)
  | .batchUpdateRecords => some (Handler.updateRecords a args)
  | .batchDeleteRecords => some (Handler.deleteRecords a args)
  | .getServerStatus => none

end Tool

namespace Server

/-- What is shown of the base that is set up; null where none is. -/
def baseHint (base : Value) : Except Fault Value :=
  if !base.isGiven then .ok .null
  else
    match base with
    | .text s => .ok (.text (Connection.hint s))
    | .list items => do return .text ((← (Value.list (items.take 6)).display) ++ "***")
    | .dictionary _ => .error (.notKey "slice")
    | v => .error (.notSubscriptable v.longKindName)

variable {τ : Type} [Add τ] [Sub τ] [OfNat τ 0] [OfNat τ 1] [LT τ] [DecidableLT τ] [Duration τ]

/-- The limiter of the client, if there is one, as it is now. -/
def limiterStatus : Serving τ (Option Value) := do
  let s ← get
  match s.client with
  | none => return none
  | some (account, memory) =>
    let (status, limiter) := memory.limiter.status s.now
    set { s with client := some (account, { memory with limiter }) }
    let _ ← Serving.ofFault (Value.count status.requests)
    return some (status.toValue (.float 1.0))

/-- The state of the server, the configuration and the limits; the token is no part of it. -/
def status : Serving τ Value := do
  let connection ← Serving.connection
  let verdict ← Serving.ofFault connection.verdict
  let base ← Serving.ofFault (baseHint connection.base)
  let limiter ← limiterStatus
  let s ← get
  let cached ← match s.client with
    | none => pure []
    | some (_, memory) =>
      pure [("cachedSchemas", ← Serving.ofFault (Value.count memory.cache.length))]
  return .record <|
    [("server", .text Product.serverName), ("version", .text Product.version),
     ("configured", .bool verdict.isAccepted), ("configMessage", .text verdict.message),
     ("defaultBaseId", base), ("limits", Limits.toValue),
     ("security", securityStatus s.audit limiter)] ++ cached

/-- Carries out the handler of a tool; the client is set up first if need be. -/
def handle (t : Tool) (args : Value) : Serving τ Value := do
  let (account, memory) ← Serving.client
  match t.handler? (← get).settings account args with
  | some operation => Serving.operate account memory operation
  | none => status

/-- What a tool does. -/
def perform (t : Tool) (args : Value) : Serving τ Value :=
  if t = .getServerStatus then status else handle t args

/-- Notes a call in the audit trail, with a warning if it failed. -/
def noteCall (t : Tool) (args : Value) (success : Bool) (code : Option String) :
    Serving τ Unit := do
  let log ← Serving.ofFault ((← get).audit.logCall t.name args success code none)
  modify fun s => { s with audit := log }
  if !success then Serving.note .warning (auditWarning t.name code)

/-- A document as the text that a client gets. -/
def documentText (v : Value) : Except Fault String := (Json.document (.page true) v).toExcept

/-- Runs a tool. Whatever goes wrong inside it is reported in a form that gives no secret away. -/
def run (t : Tool) (args : Value) : Serving τ ToolOutcome := do
  match ← observing (perform t args) with
  | .error f =>
    let refusal := f.toRefusal
    Serving.note .error s!"Tool {t.name} failed: {Redaction.redact f.message}"
    noteCall t args false (some refusal.code)
    return .failed (← Serving.ofFault (documentText refusal.report.toValue))
  | .ok v =>
    noteCall t args true none
    return .text (← Serving.ofFault (documentText v))
where
  /-- The outcome of a computation, which does not fail itself. -/
  observing {α : Type} (x : Serving τ α) : Serving τ (Except Failure α) :=
    ExceptT.mk (do return .ok (← x.run))

/-- Calls a tool with the arguments that are given. -/
def call (t : Tool) (given : Entries) : Serving τ ToolOutcome := do
  run t (.dictionary (← Serving.ofFault (t.arguments given)))

end Server

end BaseGateway
