import Mathlib.Data.Rat.Defs
import Mathlib.Logic.Relation
import BaseGateway.Proofs.Client.Asking

/-!
# Fields set by hand

Fields that were set for a table stay in force while nothing is done about that table on purpose and
the service does not describe it. Whatever else a client does, values that are written to the table
are converted by these fields (`Session.reach_converts`).

* an operation on other tables or bases keeps the fields unless the tables of the base are fetched
  on its way and the answer describes the table (`Since.carryOut`);
* with the fields cached, what is written to the table is what a conversion by them gives
  (`HasFields.converts`).
-/

namespace BaseGateway

/-- Does an answer describe a table of this name? -/
def Reply.Describes (table : String) (r : Reply) : Prop :=
  ∃ data tables, r.document = .ok data ∧ data.itemsUnder "tables" = .ok tables ∧
    ∃ description ∈ tables, ∃ schema, Schema.ofDescription description = .ok (.text table, schema)

/-- Where the tables of a base are described. -/
def tablesUrl (base : String) : String := serviceUrl ++ "/" ++ s!"meta/bases/{base}/tables"

variable {τ : Type}

namespace Session

/-- A call that went out between two states, and the reply to it. -/
def Answered (s s' : Session τ) (call : Call) (reply : Reply) : Prop :=
  ∃ i instant, s'.sent[s.sent.length + i]? = some (instant, call) ∧ s.replies[i]? = some reply

/-- No answer between two states describes the table of the base. -/
def Quiet (base table : String) (s s' : Session τ) : Prop :=
  ∀ call reply, s.Answered s' call reply → call.url = tablesUrl base → ¬reply.Describes table

/-- The fields of a table are cached. -/
def HasFields (base table : String) (fields : List Value) (s : Session τ) : Prop :=
  ∃ schema, s.cache.get? base (.text table) = some schema ∧ schema.fields = fields

/-- What has happened since a state: calls went out, replies came in the order of the store, and the
fields of the table are cached unless an answer described it. -/
structure Since (base table : String) (fields : List Value) (start s : Session τ) : Prop where
  calls : ∃ calls, s.sent = start.sent ++ calls ∧ s.replies = start.replies.drop calls.length
  fields : start.Quiet base table s → s.HasFields base table fields

end Session

/-- Is an operation meant for other schemas than that of the table? -/
def ClientAction.Spares (a : Account) (base table : String) : ClientAction → Prop
  | .setTableSchema t _ b => ¬(a.resolveBase b = .ok base ∧ t = table)
  | .listTables b => a.resolveBase b ≠ .ok base
  | .tableSchema t b refresh => ¬(refresh = true ∧ a.resolveBase b = .ok base ∧ t = table)
  | _ => True

variable {a : Account} {base table : String} {fields : List Value}

/-- What an operation is meant for leaves a table alone that it spares. -/
theorem ClientAction.Spares.get? {action : ClientAction}
    {f : SchemaCache Schema → SchemaCache Schema} (spares : action.Spares a base table)
    (change : action.Changes a f) (cache : SchemaCache Schema) :
    SchemaCache.get? base (.text table) (f cache) = cache.get? base (.text table) := by
  cases action with
  | listTables b =>
    obtain ⟨own, resolved, rfl⟩ := change
    refine SchemaCache.get?_dropBase fun same => spares ?_
    rw [resolved, same]
  | tableSchema t b refresh =>
    obtain ⟨asked, own, resolved, rfl⟩ := change
    refine SchemaCache.get?_dropTable ?_
    rintro ⟨rfl, same⟩
    exact spares ⟨asked, resolved, (Value.text.inj same).symm⟩
  | setTableSchema t given b =>
    obtain ⟨own, schema, resolved, -, rfl⟩ := change
    refine SchemaCache.get?_set_table ?_
    rintro ⟨rfl, same⟩
    exact spares ⟨resolved, (Value.text.inj same).symm⟩
  | _ => exact change.elim

namespace Session

theorem HasFields.congr {s s' : Session τ} (h : s.HasFields base table fields)
    (same : s'.cache.get? base (.text table) = s.cache.get? base (.text table)) :
    s'.HasFields base table fields := by
  obtain ⟨schema, cached, given⟩ := h
  exact ⟨schema, same.trans cached, given⟩

/-- Fields that are set are cached. -/
theorem HasFields.of_set {a : Account} {s s' : Session τ} {named : Option String} {schema : Schema}
    (resolved : a.resolveBase named = .ok base)
    (set : (a.setTableSchema table fields named).run.run s = (.ok schema, s')) :
    s'.HasFields base table fields := by
  unfold Account.setTableSchema at set
  rw [Account.run_baseFor resolved] at set
  cases set
  exact ⟨_, SchemaCache.get?_set_self, rfl⟩

/-- Nothing has happened yet. -/
theorem HasFields.since {s : Session τ} (h : s.HasFields base table fields) :
    Since base table fields s s :=
  ⟨⟨[], by simp, by simp⟩, fun _ => h⟩

namespace Since

variable {start s : Session τ}

/-- A change of the cache counts where it leaves the table alone. -/
theorem recache (h : Since base table fields start s) {cache : SchemaCache Schema}
    (same : start.Quiet base table s →
      cache.get? base (.text table) = s.cache.get? base (.text table)) :
    Since base table fields start { s with cache } :=
  ⟨h.calls, fun quiet => (h.fields quiet).congr (same quiet)⟩

/-- One more call went out, and the next reply came in. -/
theorem answered (h : Since base table fields start s) {s' : Session τ} {call : τ × Call}
    (cache : s'.cache = s.cache) (sent : s'.sent = s.sent ++ [call])
    (replies : s'.replies = s.replies.tail) : Since base table fields start s' := by
  obtain ⟨calls, out, left⟩ := h.calls
  refine ⟨⟨calls ++ [call], ?_, ?_⟩, fun quiet => ?_⟩
  · rw [sent, out, List.append_assoc]
  · rw [replies, left, List.tail_drop, List.length_append, List.length_singleton]
  · refine (h.fields fun c r earlier => quiet c r ?_).congr (by rw [cache])
    obtain ⟨i, instant, found, reply⟩ := earlier
    refine ⟨i, instant, ?_, reply⟩
    rw [sent, List.getElem?_append_left (List.getElem?_eq_some_iff.mp found).1, found]

/-- The reply that is next belongs to the call that goes out next. -/
theorem answered_next {s s' : Session τ} (h : Since base table fields start s) {call : τ × Call}
    {data : Value} (read : (Operation.nextReply s.toSurroundings).document = .ok data)
    (sent : s'.sent = s.sent ++ [call]) :
    start.Answered s' call.2 (Operation.nextReply s.toSurroundings) := by
  obtain ⟨calls, out, left⟩ := h.calls
  refine ⟨calls.length, call.1, ?_, ?_⟩
  · rw [sent, out, ← List.length_append, List.getElem?_concat_length]
  · have first : start.replies[calls.length]? = s.replies.head? := by
      rw [left, List.head?_drop]
    rw [first]
    unfold Operation.nextReply at read ⊢
    cases stored : s.replies.head? with
    | some reply => rfl
    | none =>
      rw [stored] at read
      cases read

end Since

end Session

variable [Add τ] [Sub τ] [OfNat τ 0] [LT τ] [DecidableLT τ] [Duration τ]

namespace Session.Since

variable {start : Session τ}

theorem request (a : Account) (method path : String) (query : Query) (body : Option Value) :
    Keeps (Since base table fields start) (a.request method path query body) := by
  intro s h
  rcases a.request_cases method path query body s with ⟨-, limiter, ran⟩ | cases
  · rw [ran]
    exact ⟨h.calls, h.fields⟩
  · obtain ⟨instant, s', ran, cache, sent, replies⟩ := cases
    rw [ran]
    exact h.answered cache sent replies

/-- The tables of a base may be fetched. -/
theorem fetchTables (a : Account) (own : String) :
    Keeps (Since base table fields start) (a.fetchTables own : Operation τ (List Value)) := by
  intro s h
  unfold Account.fetchTables
  rcases a.request_cases "GET" s!"meta/bases/{own}/tables" .absent none s with
    ⟨-, limiter, ran⟩ | cases
  · rw [run_bind, ran]
    exact ⟨h.calls, h.fields⟩
  · obtain ⟨instant, s', ran, cache, sent, replies⟩ := cases
    have after := h.answered cache sent replies
    rw [run_bind, ran]
    cases read : (Operation.nextReply s.toSurroundings).document with
    | error e => exact after
    | ok data =>
      dsimp only
      rw [run_bind, Operation.run_ofFault]
      cases listed : data.itemsUnder "tables" with
      | error f => exact after
      | ok tables =>
        rw [orFault_ok]
        dsimp only
        rw [run_bind, Account.run_cacheTables]
        have recached : Since base table fields start
            { s' with cache := s'.cache.setAll own (Schema.described tables) } := by
          -- A description of the table would be one in the answer to this very call.
          refine after.recache fun quiet => SchemaCache.get?_setAll ?_ _
          rintro ⟨name, schema⟩ mem ⟨rfl, rfl⟩
          obtain ⟨description, inside, told⟩ := Schema.mem_described mem
          exact quiet _ _ (h.answered_next read sent) rfl
            ⟨data, tables, read, listed, description, inside, schema, told⟩
        cases tables.mapM Schema.ofDescription <;> exact recached

/-- A client is paired with itself since the fields were set. -/
theorem paired (a : Account) : Paired (fun s t => s = t ∧ Since base table fields start s) a a where
  base := rfl
  request := fun method path query body => .of_keeps (request a method path query body)
  replies := fun _ _ related => related.1 ▸ rfl
  cache := fun _ _ related => related.1 ▸ rfl
  note := fun _ _ => .of_keeps (.modify fun _ h => ⟨h.calls, h.fields⟩)
  fetchTables := fun own => .of_keeps (fetchTables a own)
  basic := by
    rintro own name s _ ⟨rfl, h⟩ unknown
    -- The empty schema stands in for an uncached table alone, so not for the one with fields.
    refine ⟨rfl, h.recache fun quiet => SchemaCache.get?_set_table ?_⟩
    rintro ⟨rfl, same⟩
    obtain ⟨schema, cached, -⟩ := h.fields quiet
    rw [same, unknown] at cached
    cases cached

/-- An operation that spares the table keeps its fields unless an answer describes it. -/
theorem carryOut {a : Account} {action : ClientAction} (spares : action.Spares a base table) :
    Keeps (Since base table fields start) (action.carryOut a) :=
  ((paired a).carryOut action fun _ change =>
    .of_keeps (.modify fun _ h => h.recache fun _ => spares.get? change _)).keeps

end Session.Since

/-- The conversion by certain fields. -/
def Account.convertBy (fields : List Value) : Conversion τ :=
  fun _ _ values => Operation.ofExcept (convertFields values fields)

/-- Whatever a client writes to the table in this state is converted by the fields. -/
structure Session.Converts (base table : String) (fields : List Value) (s : Session τ) : Prop where
  created : ∀ (a : Account) named, a.resolveBase named = .ok base → ∀ values,
    (a.createRecord table values named).run.run s =
      (a.createRecordBy (Account.convertBy fields) table values named).run.run s
  updated : ∀ (a : Account) named, a.resolveBase named = .ok base → ∀ record values,
    (a.updateRecord table record values named).run.run s =
      (a.updateRecordBy (Account.convertBy fields) table record values named).run.run s
  allCreated : ∀ (a : Account) named, a.resolveBase named = .ok base → ∀ records,
    (a.createRecords table records named).run.run s =
      (a.createRecordsBy (Account.convertBy fields) table records named).run.run s
  allUpdated : ∀ (a : Account) named, a.resolveBase named = .ok base → ∀ changes,
    (a.updateRecords table changes named).run.run s =
      (a.updateRecordsBy (Account.convertBy fields) table changes named).run.run s

namespace Session

/-- From equal states with the fields, requests lead to equal states with the fields. -/
theorem HasFields.akin (a : Account) :
    Akin (fun s t : Session τ => s = t ∧ s.HasFields base table fields) a a where
  base := rfl
  request := fun method path query body => .of_keeps fun s h =>
    h.congr (by rw [a.request_cache method path query body s])

/-- A table with fields is converted by them, without a look at the service. -/
theorem HasFields.converted (a : Account) (values : Entries) :
    Alike (fun s t : Session τ => s = t ∧ s.HasFields base table fields) Eq
      (a.converted table base values) (Account.convertBy fields table base values) := by
  rintro s _ ⟨rfl, h⟩
  obtain ⟨schema, cached, given⟩ := h
  have ran : (a.converted table base values).run.run s =
      (Account.convertBy fields table base values).run.run s := by
    unfold Account.converted
    rw [run_bind, a.schemaOf_known cached, ← given]
    rfl
  rw [ran]
  exact ⟨⟨rfl, schema, cached, given⟩, .refl _⟩

/-- With its fields cached, whatever is written to the table is converted by them. -/
theorem HasFields.converts {s : Session τ} (h : s.HasFields base table fields) :
    s.Converts base table fields := by
  have same (a : Account) {named : Option String} (resolved : a.resolveBase named = .ok base)
      (own : String) (also : a.resolveBase named = .ok own) (values : Entries) :
      Alike (fun s t : Session τ => s = t ∧ s.HasFields base table fields) Eq
        (a.converted table own values) (Account.convertBy fields table own values) := by
    rw [resolved] at also
    obtain rfl := Except.ok.inj also
    exact converted a values
  constructor
  · intro a named resolved values
    rw [Account.createRecord_eq]
    exact ((akin a).createRecordBy (same a resolved) values).run_eq h
  · intro a named resolved record values
    rw [Account.updateRecord_eq]
    exact ((akin a).updateRecordBy (same a resolved) record values).run_eq h
  · intro a named resolved records
    rw [Account.createRecords_eq]
    exact ((akin a).createRecordsBy (same a resolved) records).run_eq h
  · intro a named resolved changes
    rw [Account.updateRecords_eq]
    exact ((akin a).updateRecordsBy (same a resolved) changes).run_eq h

/-- What can happen to a session while the fields of a table are left alone: an operation that is
not meant for its schema and meets no answer that describes it, and changes of the clock and of what
the network has in store. -/
inductive Meanwhile (base table : String) : Session τ → Session τ → Prop
  | operate (a : Account) (action : ClientAction) (s : Session τ)
      (spares : action.Spares a base table)
      (quiet : s.Quiet base table ((action.carryOut a).run.run s).2) :
      Meanwhile base table s ((action.carryOut a).run.run s).2
  | pass (now : τ) (s : Session τ) : Meanwhile base table s { s with now }
  | script (replies : List Reply) (latencies : List τ) (silence : String) (s : Session τ) :
      Meanwhile base table s { s with replies, latencies, silence }

theorem Meanwhile.hasFields {s s' : Session τ} (step : Meanwhile base table s s')
    (h : s.HasFields base table fields) : s'.HasFields base table fields := by
  cases step with
  | operate a action _ spares quiet => exact (Since.carryOut spares s h.since).fields quiet
  | pass now => exact h
  | script replies latencies silence => exact h

/-- Once the fields of a table are set, everything that is written to it is converted by them, until
they are set again, the schema is dropped on purpose, or an answer describes the table. -/
theorem reach_converts {a : Account} {before start s : Session τ} {named : Option String}
    {schema : Schema} (resolved : a.resolveBase named = .ok base)
    (set : (a.setTableSchema table fields named).run.run before = (.ok schema, start))
    (run : Relation.ReflTransGen (Meanwhile base table) start s) :
    s.Converts base table fields := by
  have kept : s.HasFields base table fields := by
    induction run with
    | refl => exact .of_set resolved set
    | tail _ step ih => exact step.hasFields ih
  exact kept.converts

end Session

/-- The fields of a table with one column, of a type. -/
def ageFields (type : String) : List Value :=
  [.record [("name", .text "Age"), ("type", .text type)]]

/-- Fields that are set by hand outlive a check of the token that the service refuses. -/
theorem Session.reach_converts_refused :
    let fresh : Session Float := { now := 1000, limiter := { maximum := 5, window := 1 } }
    let start :=
      ((Account.based.setTableSchema "Roster" (ageFields "singleSelect") none).run.run fresh).2
    Converts "appABCDEFGHIJKLMN" "Roster" (ageFields "singleSelect")
      ((ClientAction.validateCredentials.carryOut .based).run.run
        { start with replies := [.answer 403 ""] }).2 := by
  intro fresh start
  let refused : Session Float := { start with replies := [.answer 403 ""] }
  have silent : ∀ reply ∈ refused.replies, ¬reply.Describes "Roster" := by
    intro reply mem
    obtain rfl := List.mem_singleton.mp mem
    rintro ⟨data, tables, read, -⟩
    cases read
  have script : Meanwhile "appABCDEFGHIJKLMN" "Roster" start refused := .script _ _ _ _
  have check : Meanwhile "appABCDEFGHIJKLMN" "Roster" refused
      ((ClientAction.validateCredentials.carryOut .based).run.run refused).2 := by
    refine .operate .based .validateCredentials refused trivial ?_
    rintro call reply ⟨i, instant, -, given⟩ -
    exact silent reply (List.mem_of_getElem? given)
  have resolved : Account.based.resolveBase none = .ok "appABCDEFGHIJKLMN" := rfl
  have set : (Account.based.setTableSchema "Roster" (ageFields "singleSelect") none).run.run fresh =
      (.ok ⟨.text "Roster", .text "Roster", ageFields "singleSelect"⟩, start) := rfl
  exact reach_converts resolved set ((Relation.ReflTransGen.single script).tail check)

/-- The body of the last call as it is shown. -/
def Session.lastBody {τ : Type} (s : Session τ) : Option String :=
  (s.sent.getLast?.bind (·.2.body)).bind Value.quoted?

/-- A lookup of another table, or a check of the token, brings in the fields that the service
describes, and a value is then converted by these. -/
theorem Session.described_replaces :
    let _ : Duration ℚ := ⟨fun _ => ""⟩
    let before : Session ℚ :=
      { now := 0, limiter := { maximum := 5, window := 1 }
        replies := [.answer 200 <| "\x7b\"tables\":[\x7b\"name\":\"Roster\",\"fields\":" ++
          "[\x7b\"name\":\"Age\",\"type\":\"number\"\x7d]\x7d]\x7d"] }
    let start :=
      ((Account.based.setTableSchema "Roster" (ageFields "singleSelect") none).run.run before).2
    ∀ action ∈ [ClientAction.tableSchema "Brands" none false, .validateCredentials],
      action.Spares .based "appABCDEFGHIJKLMN" "Roster" ∧
      ¬Converts "appABCDEFGHIJKLMN" "Roster" (ageFields "singleSelect")
        ((action.carryOut .based).run.run start).2 := by
  intro _ before start action mem
  have differ : ((Account.based.createRecord "Roster" [(.text "Age", .int 5)] none).run.run
        ((action.carryOut .based).run.run start).2).2.lastBody ≠
      ((Account.based.createRecordBy (Account.convertBy (ageFields "singleSelect")) "Roster"
        [(.text "Age", .int 5)] none).run.run
          ((action.carryOut .based).run.run start).2).2.lastBody := by
    rcases List.mem_pair.mp mem with rfl | rfl <;> decide +kernel
  refine ⟨?_, fun converts => differ ?_⟩
  · rcases List.mem_pair.mp mem with rfl | rfl
    · exact fun refreshed => Bool.false_ne_true refreshed.1
    · trivial
  · rw [converts.created .based none rfl]

end BaseGateway
