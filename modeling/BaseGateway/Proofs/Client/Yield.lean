import BaseGateway.Proofs.Client.Documents
import BaseGateway.Proofs.Client.Frame

/-!
# What operations give

From a session that is sound every operation of the client gives data that can be shown, or a
failure that can be told, and leaves a session that is sound. A session is sound when what the
client remembers can be shown; what the network replies does not matter.

* one request gives a document (`Account.request_gives`);
* the records on all pages, and those that the chunks of a batch give, are JSON data
  (`Account.listRecords_gives`, `Account.createRecords_gives`).
-/

namespace BaseGateway

variable {τ : Type}

/-- What a client remembers can be shown. -/
structure Memory.IsSound (m : Memory τ) : Prop where
  maximum : Decimal.IsShort m.limiter.maximum
  cache : ∀ c ∈ m.cache, c.schema.IsJson

/-- A session of a client that remembers what can be shown. -/
def Session.IsSound (s : Session τ) : Prop := s.toMemory.IsSound

namespace SchemaCache

theorem get?_mem {base : String} {table : Value} {cache : SchemaCache Schema} {schema : Schema}
    (h : cache.get? base table = some schema) : ∃ c ∈ cache, c.schema = schema := by
  rw [get?, Option.map_eq_some_iff] at h
  obtain ⟨c, found, same⟩ := h
  exact ⟨c, List.mem_of_find?_eq_some found, same⟩

theorem set_forall {P : Schema → Prop} {base : String} {table : Value} {schema : Schema}
    (new : P schema) {cache : SchemaCache Schema} (h : ∀ c ∈ cache, P c.schema) :
    ∀ c ∈ cache.set base table schema, P c.schema := by
  induction cache with
  | nil => exact List.forall_mem_singleton.mpr new
  | cons c rest ih =>
    rw [List.forall_mem_cons] at h
    rw [set]
    split
    · exact List.forall_mem_cons.mpr ⟨new, h.2⟩
    · exact List.forall_mem_cons.mpr ⟨h.1, ih h.2⟩

end SchemaCache

/-- A schema that is found in the cache can be shown. -/
theorem Session.IsSound.cached {s : Session τ} (h : s.IsSound) {base : String} {table : Value}
    {schema : Schema} (found : s.cache.get? base table = some schema) : schema.IsJson := by
  obtain ⟨c, mem, rfl⟩ := SchemaCache.get?_mem found
  exact h.cache c mem

open Session

theorem takeCount_sublist {α : Type} (count : Int) (items : List α) :
    (takeCount count items).Sublist items := by
  unfold takeCount
  split <;> exact List.take_sublist _ _

theorem Listing.cut_sublist (l : Listing) (records : List Value) :
    (l.cut records).Sublist records := by
  unfold Listing.cut
  split
  · exact takeCount_sublist _ _
  · exact List.Sublist.refl _

namespace Operation

theorem ofExcept_gives {α : Type} {I : Session τ → Prop} {Q : α → Prop} {x : Except Failure α}
    (h : Outcome Q x) : Gives I Q (ofExcept x) := fun _ held => ⟨held, h⟩

theorem ofFault_gives {α : Type} {I : Session τ → Prop} {Q : α → Prop} {x : Except Fault α}
    (h : ∀ a, x = .ok a → Q a) : Gives I Q (ofFault x) := ofExcept_gives (.ofFault h)

theorem note_gives (level : Level) (message : String) :
    Gives IsSound (fun _ => True) (note level message : Operation τ Unit) :=
  .modify fun _ h => h

/-- A change after which the cached schemas can still be shown. -/
theorem modifyCache_gives {f : SchemaCache Schema → SchemaCache Schema}
    (h : ∀ cache, (∀ c ∈ cache, c.schema.IsJson) → ∀ c ∈ f cache, c.schema.IsJson) :
    Gives IsSound (fun _ => True) (modifyCache f : Operation τ Unit) :=
  .modify fun s sound => ⟨sound.maximum, h s.cache sound.cache⟩

theorem ofLogged_gives {α : Type} {Q : α → Prop} {x : Logged α}
    (h : Gives (fun _ => True) Q x) : Gives IsSound Q (ofLogged x : Operation τ α) :=
  fun s sound => ⟨sound, (h s.journal trivial).2⟩

theorem exchange_gives [Add τ] (call : Call) :
    Gives IsSound (fun _ => True) (exchange call : Operation τ Reply) := by
  intro s sound
  rw [exchange_run]
  exact ⟨sound, trivial⟩

variable [Add τ] [Sub τ] [OfNat τ 0] [LT τ] [DecidableLT τ] [Duration τ]

theorem throttle_gives : Gives IsSound (fun _ => True) (throttle : Operation τ Unit) := by
  unfold throttle
  refine Gives.get.bind fun s sound => ?_
  have same : (s.limiter.wait s.now).2.maximum = s.limiter.maximum := by
    unfold Limiter.wait
    dsimp only
    split
    · rfl
    · split <;> rfl
  have pruned : IsSound { s with limiter := (s.limiter.wait s.now).2 } :=
    ⟨same ▸ sound.maximum, sound.cache⟩
  have recorded : Gives IsSound (fun _ => True)
      (modify fun s => { s with limiter := s.limiter.record s.now } : Operation τ Unit) :=
    .modify fun s h => ⟨h.maximum, h.cache⟩
  refine Gives.bind (Gives.set pruned) fun _ _ => ?_
  refine Gives.bind (ofFault_gives fun _ _ => trivial) fun wait _ => ?_
  dsimp only
  split
  · refine (note_gives _ _).bind fun _ _ => ?_
    exact Gives.bind (Gives.modify fun _ h => h) fun _ _ => recorded
  · exact recorded

end Operation

namespace Account

open Operation Value

theorem baseFor_gives (a : Account) (base : Option String) :
    Gives IsSound (fun _ => True) (a.baseFor base : Operation τ String) := by
  refine ofExcept_gives (.ofRefusal (fun _ _ => trivial) fun r h => ?_)
  unfold resolveBase at h
  dsimp only at h
  split at h
  · cases h
  · obtain rfl := Except.error.inj h
    exact trivial

theorem checkBatch_gives {α : Type} (items : List α) :
    Gives IsSound (fun _ => True) (checkBatch items : Operation τ Unit) := by
  unfold checkBatch
  split
  · exact .throw trivial
  · exact .pure trivial

theorem cacheTables_gives (base : String) {tables : List Value}
    (json : AreJson tables) :
    Gives IsSound (fun _ => True) (cacheTables base tables : Operation τ Unit) := by
  induction tables with
  | nil => exact .pure trivial
  | cons table rest ih =>
    obtain ⟨first, others⟩ := List.forall_mem_cons.mp json
    refine (ofFault_gives (Q := fun described : Value × Schema => described.2.IsJson)
      fun _ => Schema.ofDescription_isJson first).bind fun ⟨name, schema⟩ shown => ?_
    refine (modifyCache_gives fun _ => SchemaCache.set_forall shown).bind fun _ _ => ?_
    exact ih others

theorem setTableSchema_gives (a : Account) (table : String) {fields : List Value}
    (json : AreJson fields) (base : Option String) :
    Gives IsSound Schema.IsJson (a.setTableSchema table fields base : Operation τ Schema) := by
  refine (baseFor_gives a base).bind fun base _ => Gives.get.bind fun s sound => ?_
  have known : ((s.cache.get? base (.text table)).getD (Schema.basic table)).IsJson := by
    cases found : s.cache.get? base (.text table) with
    | none => exact Schema.isJson_basic table
    | some schema => exact sound.cached found
  have new : Schema.IsJson
      { (s.cache.get? base (.text table)).getD (Schema.basic table) with fields } :=
    ⟨known.id, known.name, json⟩
  exact (modifyCache_gives fun _ => SchemaCache.set_forall new).bind fun _ _ => .pure new

/-- What the chunks of a batch give is put together. -/
theorem inChunks_gives {α : Type} {step : List α → Operation τ (List Value)}
    (each : ∀ chunk, Gives IsSound AreJson (step chunk)) (items : List α) :
    Gives IsSound AreJson (inChunks step items) := by
  refine (Gives.mapM fun chunk _ => each chunk).bind fun found json => .pure ?_
  intro v mem
  obtain ⟨values, inFound, mem⟩ := List.mem_flatten.mp mem
  exact json values inFound v mem

end Account

variable [Add τ] [Sub τ] [OfNat τ 0] [LT τ] [DecidableLT τ] [Duration τ]

namespace Account

open Operation Value

theorem request_gives (a : Account) (method path : String) (query : Query) (body : Option Value) :
    Gives IsSound IsJson (a.request method path query body : Operation τ Value) :=
  throttle_gives.bind fun _ _ => (note_gives _ _).bind fun _ _ =>
    (exchange_gives _).bind fun reply _ => ofExcept_gives reply.document_outcome

/-- The bases on the pages that follow, page by page. -/
theorem listBasesFrom_gives (a : Account) (pages : Nat) (offset : Value) :
    Gives IsSound AreJson (a.listBasesFrom pages offset : Operation τ (List Value)) := by
  induction pages generalizing offset with
  | zero => exact .pure (List.forall_mem_nil _)
  | succ pages ih =>
    unfold listBasesFrom
    refine (request_gives a _ _ _ _).bind fun data json => ?_
    refine (ofFault_gives fun _ => shownUnder_isJson json
      (fun _ _ => excerpt_isJson)).bind fun found shown => ?_
    refine (ofFault_gives fun _ _ => trivial).bind fun next (_ : True) => ?_
    split
    · exact (ih next).bind fun others shown' =>
        .pure (List.forall_mem_append.mpr ⟨shown, shown'⟩)
    · exact .pure shown

theorem listBases_gives (a : Account) :
    Gives IsSound AreJson (a.listBases : Operation τ (List Value)) :=
  Gives.get.bind fun _ _ => listBasesFrom_gives a _ _

theorem fetchTables_gives (a : Account) (base : String) :
    Gives IsSound AreJson (a.fetchTables base : Operation τ (List Value)) :=
  (request_gives a _ _ _ _).bind fun _ json =>
    (ofFault_gives fun _ => itemsUnder_isJson json).bind fun _ parts =>
      (cacheTables_gives base parts).bind fun _ _ => .pure parts

theorem listTables_gives (a : Account) (base : Option String) :
    Gives IsSound AreJson (a.listTables base : Operation τ (List Value)) := by
  refine (baseFor_gives a base).bind fun base _ => ?_
  refine (modifyCache_gives fun cache json c mem => json c (List.mem_of_mem_filter mem)).bind
    fun _ _ => (fetchTables_gives a base).bind fun tables json => ?_
  refine ofFault_gives fun shown read => ?_
  exact Except.mapM_each (fun table mem _ => excerpt_isJson (json table mem)) read

theorem tryFetchTables_gives (a : Account) (base table : String) :
    Gives IsSound (fun _ => True) (a.tryFetchTables base table : Operation τ Unit) := by
  refine .tryCatch ((fetchTables_gives a base).bind fun _ _ => .pure trivial) fun e told => ?_
  cases e with
  | refused r =>
    dsimp only
    split
    · exact note_gives _ _
    · exact .throw told
  | fault f => exact .throw told

/-- The schema of a table, cached before or after the service is asked, or empty. -/
theorem schemaOf_gives (a : Account) (base table : String) :
    Gives IsSound Schema.IsJson (a.schemaOf base table : Operation τ Schema) := by
  unfold schemaOf
  refine Gives.get.bind fun s sound => ?_
  split
  · next schema found => exact .pure (sound.cached found)
  · refine (tryFetchTables_gives a base table).bind fun _ _ => Gives.get.bind fun s' sound' => ?_
    split
    · next schema found => exact .pure (sound'.cached found)
    · have basic := Schema.isJson_basic table
      exact (modifyCache_gives fun _ => SchemaCache.set_forall basic).bind fun _ _ => .pure basic

theorem tableSchema_gives (a : Account) (table : String) (base : Option String) (refresh : Bool) :
    Gives IsSound Schema.IsJson (a.tableSchema table base refresh : Operation τ Schema) := by
  refine (baseFor_gives a base).bind fun base _ => ?_
  dsimp only
  split
  · refine (modifyCache_gives fun cache json c mem => json c (List.mem_of_mem_filter mem)).bind
      fun _ _ => schemaOf_gives a base table
  · exact schemaOf_gives a base table

theorem selectedFields_gives (a : Account) (table base : String) (e : Exclusions) :
    Gives IsSound (fun _ => True) (a.selectedFields table base e : Operation τ (List Value)) := by
  unfold selectedFields
  split
  · exact .pure trivial
  · refine (schemaOf_gives a base table).bind fun _ _ => ?_
    refine (ofFault_gives fun _ _ => trivial).bind fun names (_ : True) => ?_
    split
    · exact .pure trivial
    · exact (ofFault_gives fun _ _ => trivial).bind fun _ (_ : True) => .pure trivial

/-- The records on the pages that follow, page by page. -/
theorem listFrom_gives (a : Account) (path : String) (l : Listing)
    (parameters : List (String × Value)) (pages known : Nat) (offset : Value) :
    Gives IsSound AreJson
      (a.listFrom path l parameters pages known offset : Operation τ (List Value)) := by
  induction pages generalizing known offset with
  | zero => exact .pure (List.forall_mem_nil _)
  | succ pages ih =>
    unfold listFrom
    refine (request_gives a _ _ _ _).bind fun data json => ?_
    refine (ofFault_gives fun _ => recordsIn_isJson json).bind fun found shown => ?_
    refine (ofFault_gives fun _ _ => trivial).bind fun next (_ : True) => ?_
    dsimp only
    split
    · exact .pure shown
    · exact (ih _ next).bind fun others shown' =>
        .pure (List.forall_mem_append.mpr ⟨shown, shown'⟩)

theorem listRecords_gives (a : Account) (table : String) (base : Option String) (l : Listing) :
    Gives IsSound AreJson (a.listRecords table base l : Operation τ (List Value)) := by
  refine (baseFor_gives a base).bind fun base _ => ?_
  have from' : ∀ fields, Gives IsSound AreJson (do
      let parameters ← Operation.ofFault (l.parameters fields)
      let pages := (← get).replies.length + 1
      return l.cut (← a.listFrom (tablePath base table) l parameters pages 0 .null) :
        Operation τ (List Value)) := fun fields => by
    refine (ofFault_gives fun _ _ => trivial).bind fun parameters (_ : True) => ?_
    refine Gives.get.bind fun s _ => ?_
    refine (listFrom_gives a _ l parameters _ _ _).bind fun records json => .pure ?_
    exact fun v mem => json v ((l.cut_sublist records).mem mem)
  dsimp only
  split
  · exact (selectedFields_gives a table base l.exclusions).bind fun fields _ => from' fields
  · exact Gives.bind (.pure trivial) fun fields (_ : True) => from' fields

theorem getRecord_gives (a : Account) (table record : String) (base : Option String) :
    Gives IsSound IsJson (a.getRecord table record base : Operation τ Value) :=
  (baseFor_gives a base).bind fun _ _ => (request_gives a _ _ _ _).bind fun _ json =>
    ofFault_gives fun _ => shownRecord_isJson json

theorem deleteRecord_gives (a : Account) (table record : String) (base : Option String) :
    Gives IsSound IsJson (a.deleteRecord table record base : Operation τ Value) :=
  (baseFor_gives a base).bind fun _ _ => (request_gives a _ _ _ _).bind fun _ json =>
    ofFault_gives fun _ => getOr_isJson json trivial

theorem converted_gives (a : Account) (table base : String) (fields : Entries) :
    Gives IsSound (fun _ => True) (a.converted table base fields : Operation τ Entries) :=
  (schemaOf_gives a base table).bind fun _ _ => ofExcept_gives (convertFields_outcome _ _)

theorem createRecord_gives (a : Account) (table : String) (fields : Entries)
    (base : Option String) :
    Gives IsSound IsJson (a.createRecord table fields base : Operation τ Value) :=
  (baseFor_gives a base).bind fun _ _ => (converted_gives a _ _ _).bind fun _ _ =>
    (request_gives a _ _ _ _).bind fun _ json =>
      ofFault_gives fun _ => shownRecord_isJson json

theorem createRecords_gives (a : Account) (table : String) (records : List Entries)
    (base : Option String) :
    Gives IsSound AreJson (a.createRecords table records base : Operation τ (List Value)) := by
  unfold createRecords
  refine (checkBatch_gives records).bind fun _ _ => (baseFor_gives a base).bind fun base _ => ?_
  refine inChunks_gives (fun chunk => ?_) records
  have each : ∀ fields : Entries, Gives IsSound (fun _ => True) (do
      return Value.record [("fields", .dictionary (← a.converted table base fields))] :
        Operation τ Value) :=
    fun fields => (converted_gives a table base fields).bind fun _ _ => .pure trivial
  refine (Gives.mapM fun fields _ => each fields).bind fun _ _ => ?_
  exact (request_gives a _ _ _ _).bind fun _ json => ofFault_gives fun _ => recordsIn_isJson json

theorem updateRecords_gives (a : Account) (table : String) (changes : List Change)
    (base : Option String) :
    Gives IsSound AreJson (a.updateRecords table changes base : Operation τ (List Value)) := by
  unfold updateRecords
  refine (checkBatch_gives changes).bind fun _ _ => (baseFor_gives a base).bind fun base _ => ?_
  refine inChunks_gives (fun chunk => ?_) changes
  have each : ∀ change : Change, Gives IsSound (fun _ => True) (do
      let fields ← a.converted table base change.fields
      return Value.record [("id", .text change.id), ("fields", .dictionary fields)] :
        Operation τ Value) :=
    fun change => (converted_gives a table base change.fields).bind fun _ _ => .pure trivial
  refine (Gives.mapM fun change _ => each change).bind fun _ _ => ?_
  exact (request_gives a _ _ _ _).bind fun _ json => ofFault_gives fun _ => recordsIn_isJson json

theorem deleteRecords_gives (a : Account) (table : String) (records : List String)
    (base : Option String) :
    Gives IsSound AreJson (a.deleteRecords table records base : Operation τ (List Value)) := by
  unfold deleteRecords
  refine (checkBatch_gives records).bind fun _ _ => (baseFor_gives a base).bind fun base _ => ?_
  exact inChunks_gives (fun chunk => (request_gives a _ _ _ _).bind fun _ json =>
    ofFault_gives fun _ => deletedIn_isJson json) records

/-- How much the token gives access to is told, whatever the service says. -/
theorem validateCredentials_gives (a : Account) : Gives IsSound (fun _ => True)
    (a.validateCredentials : Operation τ String) := by
  unfold validateCredentials
  split
  · exact (listBases_gives a).bind fun _ _ => .pure trivial
  · next base _ =>
    have fetched : Gives IsSound (fun _ => True) (a.fetchTables base : Operation τ (List Value)) :=
      (fetchTables_gives a base).mono fun _ _ => trivial
    refine Gives.bind (Q := fun _ => True) (.tryCatch fetched fun e told => ?_)
      fun _ _ => .pure trivial
    cases e with
    | refused r =>
      refine .throw ?_
      cases r <;> first | exact trivial | exact told
    | fault f => exact .throw told

end Account

end BaseGateway
