import BaseGateway.Client.Session
import BaseGateway.Value.Access

/-!
# Bases, tables and schemas

What the service says about the bases a token can reach and about their tables. Fetching the tables
of a base caches their schemas. Where the token may not see them, the schema of a table is taken to
be empty, and values are then sent as they are; a schema can also be set by hand.
-/

namespace BaseGateway

/-- The schema of a table that nothing is known about. -/
def Schema.basic (table : String) : Schema := ⟨.text table, .text table, []⟩

def Schema.toValue (s : Schema) : Value :=
  .record [("id", s.id), ("name", s.name), ("fields", .list s.fields)]

/-- The entries of a value under some names, in their order; missing ones are null. -/
def Value.excerpt (names : List String) (v : Value) : Except Fault Value := do
  let entries ← names.mapM fun name => return (name, ← v.get name)
  return .record entries

/-- The items under a name, none when the name is missing. -/
def Value.itemsUnder (name : String) (v : Value) : Except Fault (List Value) := do
  (← v.getOr name (.list [])).parts

/-- The schema in the description of a table, under the name of the table. -/
def Schema.ofDescription (table : Value) : Except Fault (Value × Schema) := do
  let name ← table.item "name"
  let id ← table.get "id"
  let fields ← (← table.itemsUnder "fields").mapM (Value.excerpt ["id", "name", "type", "options"])
  name.requireKey
  return (name, ⟨id, name, fields⟩)

namespace Account

variable {τ : Type} [Add τ] [Sub τ] [OfNat τ 0] [LT τ] [DecidableLT τ] [Duration τ]

/-- The bases on further pages, from the page of an offset on. No more pages are asked for than the
network has replies for. -/
def listBasesFrom (a : Account) : Nat → Value → Operation τ (List Value)
  | 0, _ => return []
  | pages + 1, offset => do
    let query := if offset.isGiven then .named [("offset", offset)] else .absent
    let data ← a.request "GET" "meta/bases" query
    let found ← Operation.ofFault <| do
      (← data.itemsUnder "bases").mapM (Value.excerpt ["id", "name", "permissionLevel"])
    let next ← Operation.ofFault (data.get "offset")
    if next.isGiven then return found ++ (← a.listBasesFrom pages next) else return found

/-- The bases that the token can reach. -/
def listBases (a : Account) : Operation τ (List Value) := do
  a.listBasesFrom ((← get).replies.length + 1) .null

/-- Caches the schemas in the descriptions of tables, one after the other. -/
def cacheTables (base : String) : List Value → Operation τ Unit
  | [] => return ()
  | table :: rest => do
    let (name, schema) ← Operation.ofFault (Schema.ofDescription table)
    Operation.modifyCache (·.set base name schema)
    cacheTables base rest

/-- Fetches the descriptions of the tables of a base and caches their schemas. -/
def fetchTables (a : Account) (base : String) : Operation τ (List Value) := do
  let data ← a.request "GET" s!"meta/bases/{base}/tables"
  let tables ← Operation.ofFault (data.itemsUnder "tables")
  cacheTables base tables
  return tables

/-- The tables of a base. What was cached about them is forgotten first. -/
def listTables (a : Account) (base : Option String) : Operation τ (List Value) := do
  let base ← a.baseFor base
  Operation.modifyCache (·.dropBase base)
  let tables ← a.fetchTables base
  Operation.ofFault (tables.mapM (Value.excerpt ["id", "name", "description"]))

/-- Can an operation do without the descriptions of the tables when they are refused like this? -/
def isBearable : Refusal → Bool
  | .service .. | .forbidden _ | .notFound .. => true
  | _ => false

/-- Fetches the descriptions of the tables, and warns where they are refused. -/
def tryFetchTables (a : Account) (base table : String) : Operation τ Unit :=
  tryCatch (do let _ ← a.fetchTables base) fun
    | .refused r =>
      if isBearable r then
        Operation.note .warning <| s!"Metadata API unavailable ({r.code}); " ++
          s!"using basic schema for table {Text.quoted table}"
      else throw (.refused r)
    | f => throw f

/-- The schema of a table: the cached one, else what the service says, else an empty one. -/
def schemaOf (a : Account) (base table : String) : Operation τ Schema := do
  match (← get).cache.get? base (.text table) with
  | some schema => return schema
  | none =>
    a.tryFetchTables base table
    match (← get).cache.get? base (.text table) with
    | some schema => return schema
    | none =>
      let schema := Schema.basic table
      Operation.modifyCache (·.set base (.text table) schema)
      return schema

/-- The schema of a table, fetched anew where that is asked for. -/
def tableSchema (a : Account) (table : String) (base : Option String) (refresh : Bool) :
    Operation τ Schema := do
  let base ← a.baseFor base
  if refresh then Operation.modifyCache (·.dropTable base (.text table))
  a.schemaOf base table

/-- Sets the fields of a table by hand. -/
def setTableSchema (a : Account) (table : String) (fields : List Value) (base : Option String) :
    Operation τ Schema := do
  let base ← a.baseFor base
  let known := ((← get).cache.get? base (.text table)).getD (Schema.basic table)
  let schema := { known with fields }
  Operation.modifyCache (·.set base (.text table) schema)
  return schema

/-- Refusals that mean the same for the base that is set up: the token does not give access. -/
def credentialRefusal (base : String) : Refusal → Refusal
  | .notFound .. => .unauthenticated s!"Base not found: {base}"
  | .forbidden _ => .unauthenticated s!"No access to base: {base}"
  | r => r

/-- Checks the token against the service and says what it gives access to. -/
def validateCredentials (a : Account) : Operation τ String := do
  match a.base.filter (!·.isEmpty) with
  | none =>
    let bases ← a.listBases
    return s!"PAT validated successfully. You have access to {bases.length} bases."
  | some base =>
    let tables ← tryCatch (a.fetchTables base) fun
      | .refused r => throw (.refused (credentialRefusal base r))
      | f => throw f
    return s!"PAT validated successfully. Base contains {tables.length} tables."

end Account

end BaseGateway
