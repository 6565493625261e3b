import Mathlib.Data.Rat.Defs
import BaseGateway.Proofs.Client.Forgetting
import BaseGateway.Proofs.Client.Lookup
import BaseGateway.Proofs.Client.Sending

/-!
# Operations that consult a schema

An operation that needs the schema of a table looks it up before anything else, and then once for
each record that it writes. Only the first lookup can send anything: behind it the schema is cached,
and nothing that the operation sends from then on changes what is cached. So a whole operation asks
for descriptions at most once, however many records it writes and whatever the answers are
(`ClientAction.consults_once`).

* an operation that consults a schema begins with a lookup of it
  (`ClientAction.Consults.begins`);
* with the schema cached, it sends nothing but calls about records
  (`ClientAction.Consults.sends`).
-/

namespace BaseGateway

variable {τ α β : Type}

/-- A call for the descriptions of the tables of some base. -/
def Call.AsksTables (c : Call) : Prop :=
  c.method = "GET" ∧ c.query = .absent ∧ ∃ base, c.url = tablesUrl base

/-- A call about the records of a table, and not for descriptions. -/
def Call.IsOfRecords (base table : String) (c : Call) : Prop :=
  (∃ record, c.url = serviceUrl ++ "/" ++ Account.tablePath base table record) ∧ ¬c.AsksTables

/-- Does an operation consult the schema of a table, and is it to be fetched anew? -/
def ClientAction.Consults (a : Account) (base table : String) (refresh : Bool) :
    ClientAction → Prop
  | .tableSchema t named anew => a.resolveBase named = .ok base ∧ t = table ∧ anew = refresh
  | .createRecord t _ named | .updateRecord t _ _ named =>
    a.resolveBase named = .ok base ∧ t = table ∧ refresh = false
  | .createRecords t records named =>
    a.resolveBase named = .ok base ∧ t = table ∧ refresh = false ∧ records ≠ [] ∧
      records.length ≤ Limits.records
  | .updateRecords t changes named =>
    a.resolveBase named = .ok base ∧ t = table ∧ refresh = false ∧ changes ≠ [] ∧
      changes.length ≤ Limits.records
  | .listRecords t named l =>
    a.resolveBase named = .ok base ∧ t = table ∧ refresh = false ∧ l.fields = [] ∧
      l.exclusions.isGiven = true
  | _ => False

/-- One operation is the first thing that another one does. -/
def BeginsWith (x : Operation τ α) (y : Operation τ β) : Prop :=
  ∃ next : α → Operation τ β, y = x >>= next

namespace BeginsWith

variable {x : Operation τ α} {y : Operation τ β}

theorem first (next : α → Operation τ β) : BeginsWith x (x >>= next) := ⟨next, rfl⟩

theorem bind {γ : Type} (h : BeginsWith x y) (next : β → Operation τ γ) :
    BeginsWith x (y >>= next) := by
  obtain ⟨rest, rfl⟩ := h
  exact ⟨fun a => rest a >>= next, bind_assoc x rest next⟩

/-- Going through a list begins with its first item. -/
theorem mapM {γ : Type} {f : γ → Operation τ β} {c : γ} (h : BeginsWith x (f c)) (rest : List γ) :
    BeginsWith x ((c :: rest).mapM f) := by
  rw [List.mapM_cons]
  exact h.bind _

end BeginsWith

namespace Account

theorem checkBatch_bind {items : List β} (few : items.length ≤ Limits.records)
    (next : Unit → Operation τ α) : checkBatch items >>= next = next () := by
  unfold checkBatch
  rw [if_neg (Nat.not_lt.mpr few)]
  rfl

theorem isOfRecords_write (a : Account) {method base table : String} (write : method ≠ "GET")
    (record : String) (query : Query) (body : Option Value) :
    (a.callTo method (tablePath base table record) query body).IsOfRecords base table :=
  ⟨⟨record, rfl⟩, fun asks => write asks.1⟩

theorem isOfRecords_page (a : Account) {base table : String} (parameters : List (String × Value))
    (offset : Value) : (a.callTo "GET" (tablePath base table) (pageQuery parameters offset)
      none).IsOfRecords base table :=
  ⟨⟨"", rfl⟩, fun asks => by cases asks.2.1⟩

end Account

variable [Add τ] [Sub τ] [OfNat τ 0] [LT τ] [DecidableLT τ] [Duration τ]

/-- The session in which the schema is looked up: without what was known if it is fetched anew. -/
def Session.forgetting (s : Session τ) (base table : String) (refresh : Bool) : Session τ :=
  if refresh then { s with cache := s.cache.dropTable base (.text table) } else s

namespace Account

variable {a : Account} {base table : String} {named : Option String}

/-- A batch begins as its first item does. -/
theorem inChunks_begins {x : Operation τ α} {method : String} {items : List β}
    {body : β → Operation τ Value} (some : items ≠ []) (begins : ∀ item, BeginsWith x (body item)) :
    BeginsWith x (inChunks (a.sendChunk table method base body) items) := by
  cases items with
  | nil => exact absurd rfl some
  | cons item rest =>
    unfold inChunks
    rw [chunks]
    have chunk : BeginsWith x
        (a.sendChunk table method base body (item :: rest.take (Limits.batch - 1))) :=
      ((begins item).mapM _).bind _
    exact (chunk.mapM _).bind _

variable (a)

theorem converted_begins (fields : Entries) :
    BeginsWith (a.schemaOf base table : Operation τ Schema) (a.converted table base fields) :=
  .first _

variable (resolved : a.resolveBase named = .ok base)
include resolved

theorem tableSchema_cached :
    (a.tableSchema table named false : Operation τ Schema) = a.schemaOf base table := by
  unfold tableSchema
  rw [baseFor_bind resolved]
  rfl

theorem createRecord_begins (fields : Entries) :
    BeginsWith (a.schemaOf base table : Operation τ Schema)
      (a.createRecord table fields named) := by
  unfold createRecord
  rw [baseFor_bind resolved]
  exact (a.converted_begins fields).bind _

theorem updateRecord_begins (record : String) (fields : Entries) :
    BeginsWith (a.schemaOf base table : Operation τ Schema)
      (a.updateRecord table record fields named) := by
  unfold updateRecord
  rw [baseFor_bind resolved]
  exact (a.converted_begins fields).bind _

theorem createRecords_begins {records : List Entries} (some : records ≠ [])
    (few : records.length ≤ Limits.records) :
    BeginsWith (a.schemaOf base table : Operation τ Schema)
      (a.createRecords table records named) := by
  rw [createRecords_eq, createRecordsBy, checkBatch_bind few, baseFor_bind resolved]
  exact inChunks_begins some fun fields => (a.converted_begins fields).bind _

theorem updateRecords_begins {changes : List Change} (some : changes ≠ [])
    (few : changes.length ≤ Limits.records) :
    BeginsWith (a.schemaOf base table : Operation τ Schema)
      (a.updateRecords table changes named) := by
  rw [updateRecords_eq, updateRecordsBy, checkBatch_bind few, baseFor_bind resolved]
  exact inChunks_begins some fun change => (a.converted_begins change.fields).bind _

theorem listRecords_begins {l : Listing} (free : l.fields = [])
    (given : l.exclusions.isGiven = true) :
    BeginsWith (a.schemaOf base table : Operation τ Schema) (a.listRecords table named l) := by
  unfold listRecords
  rw [baseFor_bind resolved]
  have selected : BeginsWith (a.schemaOf base table : Operation τ Schema)
      (a.selectedFields table base l.exclusions) := by
    unfold selectedFields
    rw [given]
    exact .first _
  rw [free]
  exact selected.bind _

end Account

/-- What a lookup sends, what it gives and what is cached behind it. -/
theorem Account.schemaOf_asks (a : Account) (base table : String) {s after : Session τ}
    {found : Except Failure Schema}
    (looked : (a.schemaOf base table : Operation τ Schema).run.run s = (found, after)) :
    ∃ asked, after.outgoing = s.outgoing ++ asked ∧
      (match s.cache.get? base (.text table) with
        | some schema => asked = [] ∧ found = .ok schema
        | none =>
          asked = [a.tablesCall base] ∧
              found = (Operation.nextReply s.toSurroundings).schemaOf table ∨
            s.limiter.maximum < 1 ∧ asked = [] ∧ found = .error (.fault .noSuchRequest)) ∧
      ∀ schema, found = .ok schema → after.cache.get? base (.text table) = some schema := by
  cases cached : s.cache.get? base (.text table) with
  | some schema =>
    rw [a.schemaOf_known cached] at looked
    obtain ⟨rfl, rfl⟩ := Prod.mk.inj looked
    exact ⟨[], (List.append_nil _).symm, ⟨rfl, rfl⟩, fun _ same => Except.ok.inj same ▸ cached⟩
  | none =>
    rcases Account.schemaOf_unknown (a := a) cached with asked | ⟨closed, limiter, failed⟩
    · obtain ⟨instant, s', ran, sent, cached'⟩ := asked
      rw [ran] at looked
      obtain ⟨rfl, rfl⟩ := Prod.mk.inj looked
      have out : s'.outgoing = s.outgoing ++ [a.tablesCall base] := by
        simp [Surroundings.outgoing, sent]
      exact ⟨[a.tablesCall base], out, .inl ⟨rfl, rfl⟩, cached'⟩
    · rw [failed] at looked
      obtain ⟨rfl, rfl⟩ := Prod.mk.inj looked
      exact ⟨[], (List.append_nil _).symm, .inr ⟨closed, rfl, rfl⟩, fun _ same => by cases same⟩

namespace ClientAction

variable {a : Account} {base table : String} {refresh : Bool} {action : ClientAction}

/-- The same operation where it makes do with what is cached. -/
def content : ClientAction → ClientAction
  | .tableSchema t named _ => .tableSchema t named false
  | action => action

theorem Consults.content (consults : action.Consults a base table refresh) :
    action.content.Consults a base table false := by
  cases action with
  | tableSchema t named anew => exact ⟨consults.1, consults.2.1, rfl⟩
  | createRecord t fields named => exact ⟨consults.1, consults.2.1, rfl⟩
  | updateRecord t record fields named => exact ⟨consults.1, consults.2.1, rfl⟩
  | createRecords t records named => exact ⟨consults.1, consults.2.1, rfl, consults.2.2.2⟩
  | updateRecords t changes named => exact ⟨consults.1, consults.2.1, rfl, consults.2.2.2⟩
  | listRecords t named l => exact ⟨consults.1, consults.2.1, rfl, consults.2.2.2⟩
  | _ => exact consults.elim

/-- Fetching anew is forgetting first. -/
theorem Consults.run_eq (consults : action.Consults a base table refresh) (s : Session τ) :
    (action.carryOut a).run.run s =
      (action.content.carryOut a).run.run (s.forgetting base table refresh) := by
  cases action with
  | tableSchema t named anew =>
    obtain ⟨resolved, rfl, rfl⟩ := consults
    cases anew with
    | true =>
      unfold carryOut ClientAction.content
      dsimp only
      rw [run_bind, a.run_tableSchema_refresh t resolved, run_bind, a.run_tableSchema t resolved]
      rfl
    | false => rfl
  | createRecord t fields named => rw [consults.2.2]; rfl
  | updateRecord t record fields named => rw [consults.2.2]; rfl
  | createRecords t records named => rw [consults.2.2.1]; rfl
  | updateRecords t changes named => rw [consults.2.2.1]; rfl
  | listRecords t named l => rw [consults.2.2.1]; rfl
  | _ => exact consults.elim

/-- An operation that consults a schema looks it up first. -/
theorem Consults.begins (consults : action.Consults a base table false) :
    BeginsWith (a.schemaOf base table : Operation τ Schema) (action.carryOut a) := by
  cases action with
  | tableSchema t named anew =>
    obtain ⟨resolved, rfl, rfl⟩ := consults
    rw [← a.tableSchema_cached resolved]
    exact .first _
  | createRecord t fields named =>
    obtain ⟨resolved, rfl, -⟩ := consults
    exact (a.createRecord_begins resolved fields).bind _
  | updateRecord t record fields named =>
    obtain ⟨resolved, rfl, -⟩ := consults
    exact (a.updateRecord_begins resolved record fields).bind _
  | createRecords t records named =>
    obtain ⟨resolved, rfl, -, some, few⟩ := consults
    exact (a.createRecords_begins resolved some few).bind _
  | updateRecords t changes named =>
    obtain ⟨resolved, rfl, -, some, few⟩ := consults
    exact (a.updateRecords_begins resolved some few).bind _
  | listRecords t named l =>
    obtain ⟨resolved, rfl, -, free, given⟩ := consults
    exact (a.listRecords_begins resolved free given).bind _
  | _ => exact consults.elim

/-- With the schema cached, an operation that consults it leaves the cache alone and sends nothing
but calls about records. -/
theorem Consults.sends (consults : action.Consults a base table false)
    {cache : SchemaCache Schema} {schema : Schema}
    (known : cache.get? base (.text table) = some schema) :
    ∃ writes, Sends (· = cache) (Call.IsOfRecords base table) writes (fun _ => True)
      (action.carryOut a : Operation τ Unit) := by
  have lookup : Sends (· = cache) (Call.IsOfRecords base table) 0 (fun _ => True)
      (a.schemaOf base table : Operation τ Schema) :=
    (a.schemaOf_silent known).mono (Nat.le_refl 0) fun _ _ => trivial
  have post : "POST" ≠ "GET" := by decide
  have patch : "PATCH" ≠ "GET" := by decide
  cases action with
  | tableSchema t named anew =>
    obtain ⟨resolved, rfl, rfl⟩ := consults
    rw [← a.tableSchema_cached resolved] at lookup
    exact ⟨0, lookup.bind (n := 0) fun _ _ => .pure trivial⟩
  | createRecord t fields named =>
    obtain ⟨resolved, rfl, -⟩ := consults
    have sent := a.createRecord_sends (.of resolved lookup) fields <| .of resolved fun _ _ =>
      a.isOfRecords_write post "" _ _
    exact ⟨1, sent.bind (n := 0) fun _ _ => .pure trivial⟩
  | updateRecord t record fields named =>
    obtain ⟨resolved, rfl, -⟩ := consults
    have sent := a.updateRecord_sends (.of resolved lookup) record fields <| .of resolved fun _ =>
      a.isOfRecords_write patch record _ _
    exact ⟨1, sent.bind (n := 0) fun _ _ => .pure trivial⟩
  | createRecords t records named =>
    obtain ⟨resolved, rfl, -⟩ := consults
    have sent := a.createRecords_sends (.of resolved lookup) records <| .of resolved fun _ _ _ _ =>
      a.isOfRecords_write post "" _ _
    exact ⟨_, sent.bind (n := 0) fun _ _ => .pure trivial⟩
  | updateRecords t changes named =>
    obtain ⟨resolved, rfl, -⟩ := consults
    have sent := a.updateRecords_sends (.of resolved lookup) changes <| .of resolved fun _ _ _ _ =>
      a.isOfRecords_write patch "" _ _
    exact ⟨_, sent.bind (n := 0) fun _ _ => .pure trivial⟩
  | listRecords t named l =>
    obtain ⟨resolved, rfl, -⟩ := consults
    have sent := a.listRecords_sends (.of resolved lookup) l <| .of resolved
      fun _ parameters offset _ => a.isOfRecords_page parameters offset
    exact ⟨0, sent.bind (n := 0) fun _ _ => .pure trivial⟩
  | _ => exact consults.elim

/-- A lookup that fails is the end of the operation. -/
theorem Consults.fails (consults : action.Consults a base table false) {s after : Session τ}
    {e : Failure}
    (looked : (a.schemaOf base table : Operation τ Schema).run.run s = (.error e, after)) :
    (action.carryOut a).run.run s = (.error e, after) := by
  obtain ⟨next, begun⟩ := consults.begins (τ := τ)
  rw [begun, run_bind, looked]

/-- Behind the lookup of a schema that it consults, an operation sends nothing but calls about
records, and what is cached stays as it is. -/
theorem Consults.behind (consults : action.Consults a base table false) {s after : Session τ}
    {schema : Schema}
    (looked : (a.schemaOf base table : Operation τ Schema).run.run s = (.ok schema, after))
    (known : after.cache.get? base (.text table) = some schema) :
    let last := ((action.carryOut a).run.run s).2
    last.cache = after.cache ∧ ∃ others, last.outgoing = after.outgoing ++ others ∧
      ∀ c ∈ others, c.IsOfRecords base table := by
  obtain ⟨next, begun⟩ := consults.begins (τ := τ)
  obtain ⟨writes, sends⟩ := consults.sends (τ := τ) known
  -- The operation goes on from the lookup as it would go on if it began there.
  have same : (action.carryOut a).run.run s = (action.carryOut a).run.run after := by
    rw [begun, run_bind, run_bind, looked, a.schemaOf_known known]
  obtain ⟨kept, ⟨others, out, within⟩, -⟩ := sends after rfl
  rw [same]
  exact ⟨kept, others, out, within.each⟩

/-- An operation that consults the schema of a table asks for descriptions at most once, and before
any call about records: not at all where the schema is cached and not to be fetched anew, and once
where it is not, except that a limiter that lets no request through may make it fail before that.
What the lookup gives is then cached: the schema that was, or the one according to the reply. -/
theorem consults_once (consults : action.Consults a base table refresh) (s : Session τ) :
    let start := s.forgetting base table refresh
    let lookup := (a.schemaOf base table : Operation τ Schema).run.run start
    let run := (action.carryOut a).run.run s
    ∃ asked others, lookup.2.outgoing = s.outgoing ++ asked ∧
      run.2.outgoing = lookup.2.outgoing ++ others ∧ (∀ c ∈ others, c.IsOfRecords base table) ∧
      (match start.cache.get? base (.text table) with
        | some schema => asked = [] ∧ lookup.1 = .ok schema
        | none =>
          asked = [a.tablesCall base] ∧
              lookup.1 = (Operation.nextReply s.toSurroundings).schemaOf table ∨
            s.limiter.maximum < 1 ∧ asked = [] ∧ lookup.1 = .error (.fault .noSuchRequest)) ∧
      match lookup.1 with
        | .ok schema => lookup.2.cache.get? base (.text table) = some schema ∧
          run.2.cache = lookup.2.cache
        | .error e => others = [] ∧ run.1 = .error e := by
  intro start lookup run
  have surroundings : start.toSurroundings = s.toSurroundings := by
    cases refresh <;> rfl
  have limiter : start.limiter = s.limiter := by
    cases refresh <;> rfl
  have ran : run = (action.content.carryOut a).run.run start := consults.run_eq s
  obtain ⟨found, after, looked⟩ : ∃ found after, lookup = (found, after) := ⟨_, _, rfl⟩
  obtain ⟨asked, out, told, cached⟩ := a.schemaOf_asks base table looked
  rw [surroundings] at out told
  rw [limiter] at told
  rw [looked, ran]
  cases found with
  | error e =>
    rw [consults.content.fails looked]
    exact ⟨asked, [], out, (List.append_nil _).symm, List.forall_mem_nil _, told, rfl, rfl⟩
  | ok schema =>
    obtain ⟨kept, others, out', each⟩ := consults.content.behind looked (cached schema rfl)
    exact ⟨asked, others, out, out', each, told, cached schema rfl, kept⟩

/-- A batch of two records for a table that is not cached asks for descriptions once, and first. -/
theorem consults_once_batch :
    let _ : Duration ℚ := ⟨fun _ => ""⟩
    let s : Session ℚ :=
      { now := 0, limiter := { maximum := 5, window := 1 }, replies := [.answer 403 ""] }
    let batch : ClientAction := .createRecords "Tasks"
      [[(.text "Name", .text "one")], [(.text "Name", .text "two")]] none
    batch.Consults .based "appABCDEFGHIJKLMN" "Tasks" false ∧
      ∃ others, ((batch.carryOut .based).run.run s).2.outgoing =
          Account.based.tablesCall "appABCDEFGHIJKLMN" :: others ∧
        ∀ c ∈ others, c.IsOfRecords "appABCDEFGHIJKLMN" "Tasks" := by
  intro _ s batch
  have consults : batch.Consults .based "appABCDEFGHIJKLMN" "Tasks" false :=
    ⟨rfl, rfl, rfl, List.cons_ne_nil _ _, by decide⟩
  have unknown : s.cache.get? "appABCDEFGHIJKLMN" (.text "Tasks") = none := rfl
  refine ⟨consults, ?_⟩
  obtain ⟨asked, others, out, out', each, told, -⟩ := consults_once consults s
  rcases told with ⟨rfl, -⟩ | ⟨closed, -⟩
  · exact ⟨others, by rw [out', out]; rfl, each⟩
  · exact absurd closed (by decide)

/-- A limiter that lets no request through makes a lookup fail before it asks for anything. -/
theorem closed_asks_nothing :
    let _ : Duration ℚ := ⟨fun _ => ""⟩
    let s : Session ℚ := { now := 0, limiter := { maximum := 0, window := 1 } }
    let lookup : ClientAction := .tableSchema "Tasks" none false
    lookup.Consults .based "appABCDEFGHIJKLMN" "Tasks" false ∧
      s.cache.get? "appABCDEFGHIJKLMN" (.text "Tasks") = none ∧
      ¬∃ others, ((lookup.carryOut .based).run.run s).2.outgoing =
        s.outgoing ++ Account.based.tablesCall "appABCDEFGHIJKLMN" :: others := by
  intro _ s lookup
  refine ⟨⟨rfl, rfl, rfl⟩, rfl, ?_⟩
  rintro ⟨others, out⟩
  have silent : ((lookup.carryOut .based).run.run s).2.outgoing = [] := by decide +kernel
  rw [silent] at out
  cases out

end ClientAction

end BaseGateway
