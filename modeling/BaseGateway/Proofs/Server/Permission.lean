import BaseGateway.Proofs.Client.Sending
import BaseGateway.Proofs.Request.Bounds
import BaseGateway.Proofs.Value.Json
import BaseGateway.Server.Tool

/-!
# What handlers may send

Whatever the arguments of a tool are, its handler sends only what the account may send
(`Account.MaySend`), changes something with one request at most, and gives no more records than were
asked for (`Tool.handler?_bounded`): a base is reached because it is set up or by its ID, records go
by their IDs, and what is written fits into one request.
-/

namespace BaseGateway

open Checked

namespace Account

/-- The base that is set up, or one that is named by an ID. -/
def Reaches (a : Account) (base : String) : Prop := a.base = some base ∨ HasForm "app" base

/-- The calls that an account may send. -/
inductive MaySend (a : Account) : Call → Prop
  | bases (query : Query) : MaySend a (a.callTo "GET" "meta/bases" query none)
  | tables {base : String} (reached : a.Reaches base) :
      MaySend a (a.callTo "GET" s!"meta/bases/{base}/tables" .absent none)
  | page {base : String} (table : String) (query : Query) (reached : a.Reaches base) :
      MaySend a (a.callTo "GET" (tablePath base table) query none)
  | read {base record : String} (table : String) (reached : a.Reaches base)
      (named : HasForm "rec" record) :
      MaySend a (a.callTo "GET" (tablePath base table ++ "/" ++ record) .absent none)
  | create {base : String} {fields : Entries} (table : String) (reached : a.Reaches base)
      (length : 1 ≤ fields.length ∧ fields.length ≤ 100) :
      MaySend a (a.callTo "POST" (tablePath base table) .absent
        (some (.record [("fields", .dictionary fields)])))
  | createAll {base : String} {records : List Value} (table : String) (reached : a.Reaches base)
      (length : 1 ≤ records.length ∧ records.length ≤ 10)
      (each : ∀ record ∈ records, ∃ fields, record = .record [("fields", .dictionary fields)]) :
      MaySend a (a.callTo "POST" (tablePath base table) .absent
        (some (.record [("records", .list records)])))
  | updateAll {base : String} {records : List Value} (table : String) (reached : a.Reaches base)
      (length : 1 ≤ records.length ∧ records.length ≤ 10)
      (each : ∀ record ∈ records, ∃ id fields, HasForm "rec" id ∧
        record = .record [("id", .text id), ("fields", .dictionary fields)]) :
      MaySend a (a.callTo "PATCH" (tablePath base table) .absent
        (some (.record [("records", .list records)])))
  | delete {base record : String} (table : String) (reached : a.Reaches base)
      (named : HasForm "rec" record) :
      MaySend a (a.callTo "DELETE" (tablePath base table ++ "/" ++ record) .absent none)
  | deleteAll {base : String} {records : List String} (table : String) (reached : a.Reaches base)
      (length : 1 ≤ records.length ∧ records.length ≤ 10)
      (named : ∀ record ∈ records, HasForm "rec" record) :
      MaySend a (a.callTo "DELETE" (tablePath base table)
        (.pairs (records.map fun record => ("records[]", .text record))) none)

theorem tablePath_record (base table : String) {record : String} (h : HasForm "rec" record) :
    tablePath base table record = tablePath base table ++ "/" ++ record := by
  have letters : "rec".toList.all Char.isAlphanum = true := by decide
  have plain := Text.percentEncode_isAlphanum (h.isAlphanum (List.all_eq_true.mp letters))
  unfold tablePath
  simp [h.isEmpty, plain]

/-- A base is reached by its ID or because it is set up. -/
theorem atBase_reaches (a : Account) {named : Option String} (h : NamesBase named) :
    a.AtBase named a.Reaches := by
  intro base found
  unfold resolveBase at found
  dsimp only at found
  split at found
  · next b chosen =>
    obtain rfl := Except.ok.inj found
    rcases Option.or_eq_some_iff.mp chosen with kept | ⟨-, kept⟩
    · right
      exact h b (Option.eq_some_of_filter_eq_some kept)
    · left
      exact Option.eq_some_of_filter_eq_some kept
  · cases found

end Account

/-- The records that a listing or a query shows. -/
def Value.Shows (v : Value) (records : List Value) : Prop :=
  v = .list records ∨ ∃ query, v = .record [("query", .record query),
    ("recordCount", .int records.length), ("records", .list records)]

/-- A result shows no more records than were asked for, and was not given unless their number could
be read. -/
def Limited (args result : Value) : Prop :=
  ∀ v, GivesCount args v → ∃ n records, Intake.recordCount v = .valid n ∧ result.Shows records ∧
    (records.length : Int) ≤ n

/-- No more records than a number that was read. -/
def AtMost (count : Option Int) (records : List Value) : Prop :=
  ∀ n, count = some n → 1 ≤ n → (records.length : Int) ≤ n

theorem Counts.limited {args result : Value} {count : Option Int} (h : Counts args count)
    {records : List Value} (few : AtMost count records) (shows' : result.Shows records) :
    Limited args result := by
  intro v asked
  obtain ⟨n, counted, read⟩ := h v asked
  obtain ⟨positive, -⟩ := Intake.recordCount_bounds v n read
  exact ⟨n, records, read, shows', few n counted positive⟩

variable {τ : Type}

/-- An operation sends what an account may send, changes something with a number of requests at most
and gives results of a kind. -/
abbrev Account.Allows {α : Type} (a : Account) (writes : Nat) (Q : α → Prop) (x : Operation τ α) :
    Prop := Sends (fun _ => True) a.MaySend writes Q x

namespace Account

variable [Add τ] [Sub τ] [OfNat τ 0] [LT τ] [DecidableLT τ] [Duration τ]

/-- A lookup asks for the tables of a base that is reached. -/
theorem schemaOf_bounded (a : Account) {named : Option String} (h : NamesBase named)
    (table : String) : a.AtBase named fun base =>
      a.Allows 0 (fun _ => True) (a.schemaOf base table : Operation τ Schema) :=
  fun base found => schemaOf_sends a (.tables (a.atBase_reaches h base found)) table

theorem listRecords_bounded (a : Account) {named : Option String} (h : NamesBase named)
    (table : String) (l : Listing) :
    a.Allows 0 (AtMost l.maxRecords)
      (a.listRecords table named l : Operation τ (List Value)) := by
  have sent := listRecords_sends (τ := τ) a (a.schemaOf_bounded h table) l
    fun base found _ _ _ _ => .page table _ (a.atBase_reaches h base found)
  refine sent.mono (Nat.le_refl 0) fun records few n asked positive => ?_
  have given : n ∈ Listing.given l.maxRecords := by
    have other : (n != 0) = true := by simpa using (by omega : n ≠ 0)
    rw [asked, Listing.given, Option.filter_some, if_pos other]
    rfl
  exact few n given (by omega)

end Account

namespace Handler

variable {I : SchemaCache Schema → Prop} {P : Call → Prop} {n : Nat} {α : Type} {Q : α → Prop}

/-- Reading a request sends nothing. -/
theorem request_sends {x : Checked α} (h : x.Every Q) :
    Sends I P n Q (request x : Operation τ α) := by
  refine .ofExcept fun r same => ?_
  cases x with
  | valid y => exact Except.ok.inj same ▸ h y rfl
  | flawed first rest => cases same

theorem found_shows {query : List (String × Value)} {records : List Value} {v : Value}
    (h : found query records = .ok v) : v.Shows records := by
  obtain ⟨number, counted, h⟩ := Except.bind_ok h
  obtain ⟨rfl, -⟩ := Value.count_ok counted
  obtain rfl := Except.ok.inj h
  exact .inr ⟨query, rfl⟩

/-- What is found is limited where the number of records was read. -/
theorem found_limited {args : Value} {count : Option Int} (counts : Counts args count)
    (query : List (String × Value)) {records : List Value} (few : AtMost count records) :
    Sends I P n (Limited args) (Operation.ofFault (found query records) : Operation τ Value) :=
  .ofFault fun _ same => counts.limited few (found_shows same)

theorem setTableSchema_bounded (a : Account) (args : Value) :
    a.Allows 0 (fun _ => True) (setTableSchema a args : Operation τ Value) := by
  refine (request_sends (Every.any _)).seq fun r _ => ?_
  exact (a.setTableSchema_sends _ _ fun _ _ => .any).seq fun _ _ => .pure trivial

variable [Add τ] [Sub τ] [OfNat τ 0] [LT τ] [DecidableLT τ] [Duration τ] (settings : SettingsFile)
  (a : Account)

theorem listBases_bounded :
    a.Allows 0 (fun _ => True) (listBases a : Operation τ Value) :=
  (a.listBases_sends fun query => .bases query).seq fun _ _ => .ofFault_any _

theorem listTables_bounded (args : Value) :
    a.Allows 0 (fun _ => True) (listTables a args : Operation τ Value) := by
  refine (request_sends (TableListing.read_named args)).seq fun r named => ?_
  refine Sends.seq (a.listTables_sends (fun _ _ => .any) ?_) fun _ _ => .ofFault_any _
  exact fun base found => .tables (a.atBase_reaches named base found)

theorem tableSchema_bounded (args : Value) :
    a.Allows 0 (fun _ => True) (tableSchema a args : Operation τ Value) := by
  refine (request_sends (SchemaLookup.read_named args)).seq fun r named => ?_
  refine Sends.seq (a.tableSchema_sends (fun _ _ => .any) ?_ r.target.table r.refresh)
    fun _ _ => .pure trivial
  exact fun base found => .tables (a.atBase_reaches named base found)

theorem listRecords_bounded (args : Value) :
    a.Allows 0 (Limited args) (listRecords settings a args : Operation τ Value) := by
  refine (request_sends (RecordListing.read_bounds args)).seq fun r ⟨named, counts⟩ => ?_
  refine (Sends.ofLogged _).seq fun attachments _ => ?_
  refine (a.listRecords_bounded named r.target.table _).seq fun records few => .pure ?_
  exact counts.limited few (.inl rfl)

theorem getRecord_bounded (args : Value) :
    a.Allows 0 (fun _ => True) (getRecord a args : Operation τ Value) := by
  refine (request_sends (RecordTarget.read_bounds _ args)).seq fun r ⟨named, form⟩ => ?_
  refine a.getRecord_sends r.recordId fun base found => ?_
  dsimp only
  rw [Account.tablePath_record base r.target.table form]
  exact .read r.target.table (a.atBase_reaches named base found) form

theorem createRecord_bounded (args : Value) :
    a.Allows 1 (fun _ => True) (createRecord a args : Operation τ Value) := by
  refine (request_sends (RecordCreation.read_bounds args)).seq fun r ⟨named, length⟩ => ?_
  refine a.createRecord_sends (a.schemaOf_bounded named _) r.fields fun base found given same => ?_
  exact .create r.target.table (a.atBase_reaches named base found) (same ▸ length)

theorem deleteRecord_bounded (args : Value) :
    a.Allows 1 (fun _ => True) (deleteRecord a args : Operation τ Value) := by
  refine (request_sends (RecordTarget.read_bounds _ args)).seq fun r ⟨named, form⟩ => ?_
  refine Sends.bind (n := 0) (a.deleteRecord_sends r.recordId fun base found => ?_)
    fun _ _ => .pure trivial
  dsimp only
  rw [Account.tablePath_record base r.target.table form]
  exact .delete r.target.table (a.atBase_reaches named base found) form

theorem select_bounded {target : Target} (named : target.IsNamed) (formula : Formula)
    (extent : Extent) (sort : Option (List SortField)) :
    a.Allows 0 (AtMost extent.maxRecords)
      (select a target formula extent sort : Operation τ (List Value)) :=
  a.listRecords_bounded named target.table _

theorem queryByAge_bounded (args : Value) :
    a.Allows 0 (Limited args) (queryByAge settings a args : Operation τ Value) := by
  refine (request_sends (AgeQuery.read_bounds args)).seq fun q ⟨named, counts⟩ => ?_
  refine (Sends.ofLogged _).seq fun formula _ => ?_
  exact (select_bounded a named formula q.extent none).seq fun records => found_limited counts _

theorem queryByOptions_bounded (args : Value) :
    a.Allows 0 (Limited args) (queryByOptions settings a args : Operation τ Value) := by
  refine (request_sends (SelectQuery.read_bounds args)).seq fun q ⟨named, counts⟩ => ?_
  refine (Sends.ofLogged _).seq fun formula _ => ?_
  exact (select_bounded a named _ q.extent none).seq fun records => found_limited counts _

theorem smartQuery_bounded (args : Value) :
    a.Allows 0 (Limited args) (smartQuery settings a args : Operation τ Value) := by
  refine (request_sends (SmartQuery.read_bounds args)).seq fun q ⟨named, counts⟩ => ?_
  refine (Sends.ofLogged _).seq fun formula _ => ?_
  exact (select_bounded a named formula q.extent q.sort).seq fun records => found_limited counts _

/-- A batch that fits into one request sends one. -/
theorem one_chunk {β : Type} {items : List β} (length : 1 ≤ items.length ∧ items.length ≤ 10) :
    chunks Limits.batch items = [items] :=
  chunks_of_le (List.ne_nil_of_length_pos length.1) length.2

theorem createRecords_bounded (args : Value) :
    a.Allows 1 (fun _ => True) (createRecords a args : Operation τ Value) := by
  refine (request_sends (BatchCreation.read_bounds args)).seq fun r ⟨named, length⟩ => ?_
  have sent : a.Allows (1 * (chunks Limits.batch r.records).length) (fun _ => True)
      (a.createRecords r.target.table r.records r.target.baseId : Operation τ (List Value)) := by
    refine a.createRecords_sends (a.schemaOf_bounded named _) _ fun base found chunk mem bodies
      built => ?_
    rw [one_chunk length] at mem
    obtain rfl := List.mem_singleton.mp mem
    apply Account.MaySend.createAll r.target.table (a.atBase_reaches named base found)
    · rwa [← built.length_eq]
    · exact forall_of_forall₂ (fun _ _ _ made => made) built
  rw [one_chunk length] at sent
  exact sent.bind (n := 0) fun _ _ => .ofFault_any _

theorem updateRecords_bounded (args : Value) :
    a.Allows 1 (fun _ => True) (updateRecords a args : Operation τ Value) := by
  refine (request_sends (BatchChange.read_bounds args)).seq fun r ⟨named, length, form⟩ => ?_
  let changes : List Change := r.updates.map fun u => ⟨u.id, u.fields⟩
  have count : 1 ≤ changes.length ∧ changes.length ≤ 10 := by rwa [List.length_map]
  have ids : ∀ change ∈ changes, HasForm "rec" change.id := List.forall_mem_map.mpr form
  have sent : a.Allows (1 * (chunks Limits.batch changes).length) (fun _ => True)
      (a.updateRecords r.target.table changes r.target.baseId : Operation τ (List Value)) := by
    refine a.updateRecords_sends (a.schemaOf_bounded named _) _ fun base found chunk mem bodies
      built => ?_
    rw [one_chunk count] at mem
    obtain rfl := List.mem_singleton.mp mem
    apply Account.MaySend.updateAll r.target.table (a.atBase_reaches named base found)
    · rwa [← built.length_eq]
    · exact forall_of_forall₂ (fun change inside _ ⟨fields, made⟩ =>
        ⟨change.id, fields, ids change inside, made⟩) built
  rw [one_chunk count] at sent
  exact sent.bind (n := 0) fun _ _ => .ofFault_any _

theorem deleteRecords_bounded (args : Value) :
    a.Allows 1 (fun _ => True) (deleteRecords a args : Operation τ Value) := by
  refine (request_sends (BatchDeletion.read_bounds args)).seq fun r ⟨named, length, form⟩ => ?_
  have sent : a.Allows (1 * (chunks Limits.batch r.recordIds).length) (fun _ => True)
      (a.deleteRecords r.target.table r.recordIds r.target.baseId :
        Operation τ (List Value)) := by
    refine a.deleteRecords_sends _ fun base found chunk mem => ?_
    rw [one_chunk length] at mem
    obtain rfl := List.mem_singleton.mp mem
    exact .deleteAll r.target.table (a.atBase_reaches named base found) length form
  rw [one_chunk length] at sent
  exact sent.bind (n := 0) fun _ _ => .ofFault_any _

end Handler

namespace Tool

/-- Does a tool take a number of records? -/
def TakesCount (t : Tool) : Prop := "max_records" ∈ t.parameters.map Parameter.name

instance (t : Tool) : Decidable t.TakesCount := inferInstanceAs (Decidable (_ ∈ _))

/-- A result that shows no more records than were asked for, where their number can be given. -/
def Bounded (t : Tool) (args result : Value) : Prop := t.TakesCount → Limited args result

variable [Add τ] [Sub τ] [OfNat τ 0] [LT τ] [DecidableLT τ] [Duration τ]

/-- A handler sends what the account may send, changes something with one request at most, and gives
no more records than were asked for. -/
theorem handler?_bounded (t : Tool) (settings : SettingsFile) (a : Account) (args : Value)
    {operation : Operation τ Value} (h : t.handler? settings a args = some operation) :
    a.Allows 1 (t.Bounded args) operation := by
  have reading {t : Tool} {x : Operation τ Value} (sends : a.Allows 0 (Limited args) x) :
      a.Allows 1 (t.Bounded args) x :=
    sends.mono (Nat.zero_le 1) fun _ limited _ => limited
  have counting {t : Tool} {x : Operation τ Value} {n : Nat} (few : n ≤ 1) (none : ¬t.TakesCount)
      (sends : a.Allows n (fun _ => True) x) : a.Allows 1 (t.Bounded args) x :=
    sends.mono few fun _ _ takes => absurd takes none
  cases t <;> cases h
  case listBases => exact counting (by decide) (by decide) (Handler.listBases_bounded a)
  case listTables => exact counting (by decide) (by decide) (Handler.listTables_bounded a args)
  case getTableSchema => exact counting (by decide) (by decide) (Handler.tableSchema_bounded a args)
  case listRecords => exact reading (Handler.listRecords_bounded settings a args)
  case getRecord => exact counting (by decide) (by decide) (Handler.getRecord_bounded a args)
  case createRecord => exact counting (by decide) (by decide) (Handler.createRecord_bounded a args)
  case updateRecord => exact .throw _
  case deleteRecord => exact counting (by decide) (by decide) (Handler.deleteRecord_bounded a args)
  case setTableSchema =>
    exact counting (by decide) (by decide) (Handler.setTableSchema_bounded a args)
  case queryByAgeRange => exact reading (Handler.queryByAge_bounded settings a args)
  case queryMultipleSelect => exact reading (Handler.queryByOptions_bounded settings a args)
  case smartQuery => exact reading (Handler.smartQuery_bounded settings a args)
  case batchCreateRecords =>
    exact counting (by decide) (by decide) (Handler.createRecords_bounded a args)
  case batchUpdateRecords =>
    exact counting (by decide) (by decide) (Handler.updateRecords_bounded a args)
  case batchDeleteRecords =>
    exact counting (by decide) (by decide) (Handler.deleteRecords_bounded a args)

end Tool

end BaseGateway
