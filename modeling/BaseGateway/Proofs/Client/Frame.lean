import BaseGateway.Proofs.Alike
import BaseGateway.Proofs.Client.Writing

/-!
# What operations do to a session

All that an operation of the client does to a session is to send requests, to write to the journal
and to change the cached schemas. Where two clients do each of these alike in sessions that
correspond, they carry out every operation alike (`Paired.carryOut`), whatever the network replies
and wherever the operation fails. In particular what requests, notes and changes of the cache keep
is kept by every operation (`Lasting.carryOut`).
-/

namespace BaseGateway

/-- An operation of the client with its arguments. -/
inductive ClientAction where
  | listBases
  | listTables (base : Option String)
  | tableSchema (table : String) (base : Option String) (refresh : Bool)
  | setTableSchema (table : String) (fields : List Value) (base : Option String)
  | validateCredentials
  | listRecords (table : String) (base : Option String) (listing : Listing)
  | getRecord (table record : String) (base : Option String)
  | createRecord (table : String) (fields : Entries) (base : Option String)
  | updateRecord (table record : String) (fields : Entries) (base : Option String)
  | deleteRecord (table record : String) (base : Option String)
  | createRecords (table : String) (records : List Entries) (base : Option String)
  | updateRecords (table : String) (changes : List Change) (base : Option String)
  | deleteRecords (table : String) (records : List String) (base : Option String)

namespace Operation

variable {τ α : Type}

theorem run_ofExcept (x : Except Failure α) (s : Session τ) :
    (ofExcept x).run.run s = (x, s) := rfl

theorem run_ofFault (x : Except Fault α) (s : Session τ) :
    (ofFault x).run.run s = (Except.orFault x, s) := rfl

theorem run_note (level : Level) (message : String) (s : Session τ) :
    (note level message).run.run s =
      (.ok (), { s with journal := s.journal.write level message }) := rfl

/-- The reply that is next. -/
def nextReply (s : Surroundings τ) : Reply := s.replies.head?.getD (.unreachable s.silence)

theorem exchange_run [Add τ] (call : Call) (s : Session τ) :
    (exchange call).run.run s = (.ok (nextReply s.toSurroundings),
      { s with toSurroundings :=
        { s.toSurroundings.await with
          sent := s.sent ++ [(s.now, call)], replies := s.replies.tail } }) := by
  have kept : s.toSurroundings.await.replies = s.replies := by
    unfold Surroundings.await
    cases s.latencies <;> rfl
  unfold exchange nextReply
  cases replies : s.replies with
  | nil =>
    simp only [run_bind, run_get, replies, run_set, run_pure]
    rw [replies] at kept
    simp [kept]
  | cons reply rest =>
    simp only [run_bind, run_get, replies, run_set, run_pure]
    rfl

end Operation

namespace Alike

variable {τ α β : Type} {R : Session τ → Session τ → Prop}

theorem ofExcept (x : Except Failure α) :
    Alike R Eq (Operation.ofExcept x : Operation τ α) (Operation.ofExcept x) :=
  fun _ _ related => ⟨related, .refl x⟩

theorem ofFault (x : Except Fault α) :
    Alike R Eq (Operation.ofFault x : Operation τ α) (Operation.ofFault x) := ofExcept _

theorem checkBatch (items : List α) :
    Alike R Eq (Account.checkBatch items : Operation τ Unit) (Account.checkBatch items) := by
  unfold Account.checkBatch
  split
  · exact .throw _
  · exact .pure rfl

theorem inChunks {step step' : List α → Operation τ (List β)}
    (each : ∀ chunk, Alike R Eq (step chunk) (step' chunk)) (items : List α) :
    Alike R Eq (Account.inChunks step items) (Account.inChunks step' items) :=
  (Alike.mapM each _).seq fun _ => .pure rfl

end Alike

section

variable {τ : Type} [Add τ] [Sub τ] [OfNat τ 0] [LT τ] [DecidableLT τ] [Duration τ]

/-- Carries out an operation, whatever it gives. -/
def ClientAction.carryOut (a : Account) : ClientAction → Operation τ Unit
  | .listBases => do let _ ← a.listBases
  | .listTables base => do let _ ← a.listTables base
  | .tableSchema table base refresh => do let _ ← a.tableSchema table base refresh
  | .setTableSchema table fields base => do let _ ← a.setTableSchema table fields base
  | .validateCredentials => do let _ ← a.validateCredentials
  | .listRecords table base listing => do let _ ← a.listRecords table base listing
  | .getRecord table record base => do let _ ← a.getRecord table record base
  | .createRecord table fields base => do let _ ← a.createRecord table fields base
  | .updateRecord table record fields base => do let _ ← a.updateRecord table record fields base
  | .deleteRecord table record base => do let _ ← a.deleteRecord table record base
  | .createRecords table records base => do let _ ← a.createRecords table records base
  | .updateRecords table changes base => do let _ ← a.updateRecords table changes base
  | .deleteRecords table records base => do let _ ← a.deleteRecords table records base

/-- The changes of the cache that an operation is meant for: to drop what is known, or to set the
fields of a table. Others come about only where schemas are fetched. -/
def ClientAction.Changes (a : Account) (f : SchemaCache Schema → SchemaCache Schema) :
    ClientAction → Prop
  | .listTables base => ∃ b, a.resolveBase base = .ok b ∧ f = (·.dropBase b)
  | .tableSchema table base refresh =>
    refresh = true ∧ ∃ b, a.resolveBase base = .ok b ∧ f = (·.dropTable b (.text table))
  | .setTableSchema table fields base =>
    ∃ b schema, a.resolveBase base = .ok b ∧ schema.fields = fields ∧
      f = (·.set b (.text table) schema)
  | _ => False

/-- Two clients that send requests alike in sessions that correspond. -/
structure Akin (R : Session τ → Session τ → Prop) (a b : Account) : Prop where
  base : a.base = b.base
  request : ∀ (method path : String) (query : Query) (body : Option Value),
    Alike R Eq (a.request method path query body) (b.request method path query body)

/-- Two clients that also write notes and fetch tables alike, so that what they remember stays the
same. -/
structure Paired (R : Session τ → Session τ → Prop) (a b : Account) : Prop extends Akin R a b where
  replies : ∀ s t, R s t → s.replies = t.replies
  cache : ∀ s t, R s t → s.cache = t.cache
  note : ∀ (level : Level) (message : String),
    Alike R Eq (Operation.note level message) (Operation.note level message)
  fetchTables : ∀ base, Alike R Eq (a.fetchTables base) (b.fetchTables base)
  /-- The empty schema of a table that nothing is known about. -/
  basic : ∀ base table s t, R s t → s.cache.get? base (.text table) = none →
    R { s with cache := s.cache.set base (.text table) (Schema.basic table) }
      { t with cache := t.cache.set base (.text table) (Schema.basic table) }

/-- Schemas are fetched alike where the cache may be changed in any way. -/
theorem Alike.fetchTables {R : Session τ → Session τ → Prop} {a b : Account}
    (request : ∀ (method path : String) (query : Query) (body : Option Value),
      Alike R Eq (a.request method path query body) (b.request method path query body))
    (change : ∀ f, Alike R Eq (Operation.modifyCache f) (Operation.modifyCache f)) (base : String) :
    Alike R Eq (a.fetchTables base : Operation τ (List Value)) (b.fetchTables base) := by
  have cached : ∀ tables : List Value, Alike R Eq
      (Account.cacheTables base tables : Operation τ Unit) (Account.cacheTables base tables) := by
    intro tables
    induction tables with
    | nil => exact .pure rfl
    | cons table rest ih => exact (ofFault _).seq fun _ => (change _).seq fun _ => ih
  exact (request _ _ _ _).seq fun _ => (ofFault _).seq fun tables =>
    (cached tables).seq fun _ => .pure rfl

namespace Akin

variable {R : Session τ → Session τ → Prop} {a b : Account} (h : Akin R a b)
include h

/-- Both resolve the base that is named in the same way. -/
theorem withBase {α : Type} {base : Option String} {f g : String → Operation τ α}
    (next : ∀ b', a.resolveBase base = .ok b' → Alike R Eq (f b') (g b')) :
    Alike R Eq (a.baseFor base >>= f) (b.baseFor base >>= g) := by
  have same : b.resolveBase base = a.resolveBase base := by
    unfold Account.resolveBase
    rw [h.base]
  unfold Account.baseFor
  rw [same]
  cases resolved : a.resolveBase base with
  | error e => exact .throw _
  | ok b' => exact next b' resolved

theorem getRecord (table record : String) (base : Option String) :
    Alike R Eq (a.getRecord table record base : Operation τ Value)
      (b.getRecord table record base) :=
  h.withBase fun _ _ => (h.request _ _ _ _).seq fun _ => .ofFault _

theorem deleteRecord (table record : String) (base : Option String) :
    Alike R Eq (a.deleteRecord table record base : Operation τ Value)
      (b.deleteRecord table record base) :=
  h.withBase fun _ _ => (h.request _ _ _ _).seq fun _ => .ofFault _

theorem deleteRecords (table : String) (records : List String) (base : Option String) :
    Alike R Eq (a.deleteRecords table records base : Operation τ (List Value))
      (b.deleteRecords table records base) :=
  (Alike.checkBatch records).seq fun _ => h.withBase fun _ _ =>
    .inChunks (fun _ => (h.request _ _ _ _).seq fun _ => .ofFault _) _

theorem sendChunk {α : Type} {body body' : α → Operation τ Value}
    (each : ∀ x, Alike R Eq (body x) (body' x)) (table method base : String) (chunk : List α) :
    Alike R Eq (a.sendChunk table method base body chunk)
      (b.sendChunk table method base body' chunk) :=
  (Alike.mapM each chunk).seq fun _ => (h.request _ _ _ _).seq fun _ => .ofFault _

section Writing

variable {convert convert' : Account.Conversion τ} {table : String} {base : Option String}
  (same : ∀ b', a.resolveBase base = .ok b' → ∀ fields,
    Alike R Eq (convert table b' fields) (convert' table b' fields))
include same

theorem createRecordBy (fields : Entries) :
    Alike R Eq (a.createRecordBy convert table fields base)
      (b.createRecordBy convert' table fields base) :=
  h.withBase fun b' resolved => (same b' resolved fields).seq fun _ =>
    (h.request _ _ _ _).seq fun _ => .ofFault _

theorem updateRecordBy (record : String) (fields : Entries) :
    Alike R Eq (a.updateRecordBy convert table record fields base)
      (b.updateRecordBy convert' table record fields base) :=
  h.withBase fun b' resolved => (same b' resolved fields).seq fun _ =>
    (h.request _ _ _ _).seq fun _ => .ofFault _

theorem createRecordsBy (records : List Entries) :
    Alike R Eq (a.createRecordsBy convert table records base)
      (b.createRecordsBy convert' table records base) := by
  refine (Alike.checkBatch records).seq fun _ => h.withBase fun b' resolved => ?_
  have body : ∀ fields, Alike R Eq (Account.newBody convert table b' fields)
      (Account.newBody convert' table b' fields) :=
    fun fields => (same b' resolved fields).seq fun _ => .pure rfl
  exact .inChunks (h.sendChunk body table "POST" b') records

theorem updateRecordsBy (changes : List Change) :
    Alike R Eq (a.updateRecordsBy convert table changes base)
      (b.updateRecordsBy convert' table changes base) := by
  refine (Alike.checkBatch changes).seq fun _ => h.withBase fun b' resolved => ?_
  have body : ∀ change, Alike R Eq (Account.changeBody convert table b' change)
      (Account.changeBody convert' table b' change) :=
    fun change => (same b' resolved change.fields).seq fun _ => .pure rfl
  exact .inChunks (h.sendChunk body table "PATCH" b') changes

end Writing

end Akin

namespace Paired

variable {R : Session τ → Session τ → Prop} {a b : Account} (h : Paired R a b)
include h

theorem listBasesFrom (pages : Nat) (offset : Value) :
    Alike R Eq (a.listBasesFrom pages offset : Operation τ (List Value))
      (b.listBasesFrom pages offset) := by
  induction pages generalizing offset with
  | zero => exact .pure rfl
  | succ pages ih =>
    unfold Account.listBasesFrom
    refine (h.request _ _ _ _).seq fun data => (Alike.ofFault _).seq fun found => ?_
    refine (Alike.ofFault _).seq fun next => ?_
    split
    · exact (ih next).seq fun _ => .pure rfl
    · exact .pure rfl

theorem listBases : Alike R Eq (a.listBases : Operation τ (List Value)) b.listBases := by
  refine Alike.get.bind fun s t related => ?_
  rw [h.replies s t related]
  exact h.listBasesFrom _ _

theorem tryFetchTables (base table : String) :
    Alike R Eq (a.tryFetchTables base table : Operation τ Unit) (b.tryFetchTables base table) := by
  refine .tryCatch ((h.fetchTables base).seq fun _ => .pure rfl) fun e => ?_
  cases e with
  | refused r =>
    dsimp only
    split
    · exact h.note _ _
    · exact .throw _
  | fault f => exact .throw _

/-- A schema that is cached is the same for both, and one that is not is fetched alike. -/
theorem schemaOf (base table : String) :
    Alike R Eq (a.schemaOf base table : Operation τ Schema) (b.schemaOf base table) := by
  have looked : ∀ s t, R s t →
      s.cache.get? base (.text table) = t.cache.get? base (.text table) :=
    fun s t related => by rw [h.cache s t related]
  unfold Account.schemaOf
  refine Alike.get.bind fun s t related => ?_
  rw [looked s t related]
  split
  · exact .pure rfl
  · refine (h.tryFetchTables base table).seq fun _ s t related => ?_
    -- The empty schema is cached only where none was found, so the state of the look-up counts.
    rw [run_bind, run_bind, run_get, run_get]
    dsimp only
    rw [looked s t related]
    cases found : t.cache.get? base (.text table) with
    | some schema => exact ⟨related, rfl⟩
    | none =>
      refine ⟨h.basic base table s t related ?_, rfl⟩
      rw [looked s t related, found]

theorem listTables {base : Option String}
    (drop : ∀ b', a.resolveBase base = .ok b' → Alike R Eq
      (Operation.modifyCache (·.dropBase b')) (Operation.modifyCache (·.dropBase b'))) :
    Alike R Eq (a.listTables base : Operation τ (List Value)) (b.listTables base) :=
  h.withBase fun b' resolved => (drop b' resolved).seq fun _ =>
    (h.fetchTables b').seq fun _ => .ofFault _

theorem tableSchema {table : String} {base : Option String} {refresh : Bool}
    (drop : refresh = true → ∀ b', a.resolveBase base = .ok b' → Alike R Eq
      (Operation.modifyCache (·.dropTable b' (.text table)))
      (Operation.modifyCache (·.dropTable b' (.text table)))) :
    Alike R Eq (a.tableSchema table base refresh : Operation τ Schema)
      (b.tableSchema table base refresh) := by
  refine h.withBase fun b' resolved => ?_
  cases refresh with
  | true => exact (drop rfl b' resolved).seq fun _ => h.schemaOf b' table
  | false => exact h.schemaOf b' table

theorem setTableSchema {table : String} {fields : List Value} {base : Option String}
    (set : ∀ b', a.resolveBase base = .ok b' → ∀ schema : Schema, schema.fields = fields →
      Alike R Eq (Operation.modifyCache (·.set b' (.text table) schema))
        (Operation.modifyCache (·.set b' (.text table) schema))) :
    Alike R Eq (a.setTableSchema table fields base : Operation τ Schema)
      (b.setTableSchema table fields base) := by
  refine h.withBase fun b' resolved => Alike.get.bind fun s t related => ?_
  rw [h.cache s t related]
  exact (set b' resolved _ rfl).seq fun _ => .pure rfl

theorem validateCredentials :
    Alike R Eq (a.validateCredentials : Operation τ String) b.validateCredentials := by
  unfold Account.validateCredentials
  rw [h.base]
  split
  · exact h.listBases.seq fun _ => .pure rfl
  · refine .seq (.tryCatch (h.fetchTables _) fun e => ?_) fun _ => .pure rfl
    cases e <;> exact .throw _

theorem selectedFields (table base : String) (e : Exclusions) :
    Alike R Eq (a.selectedFields table base e : Operation τ (List Value))
      (b.selectedFields table base e) := by
  unfold Account.selectedFields
  split
  · exact .pure rfl
  · refine (h.schemaOf base table).seq fun _ => (Alike.ofFault _).seq fun names => ?_
    split
    · exact .pure rfl
    · exact (Alike.ofFault _).seq fun _ => .pure rfl

theorem listFrom (path : String) (l : Listing) (parameters : List (String × Value))
    (pages known : Nat) (offset : Value) :
    Alike R Eq (a.listFrom path l parameters pages known offset)
      (b.listFrom path l parameters pages known offset) := by
  induction pages generalizing known offset with
  | zero => exact .pure rfl
  | succ pages ih =>
    unfold Account.listFrom
    refine (h.request _ _ _ _).seq fun data => (Alike.ofFault _).seq fun found => ?_
    refine (Alike.ofFault _).seq fun next => ?_
    dsimp only
    split
    · exact .pure rfl
    · exact (ih _ next).seq fun _ => .pure rfl

theorem listRecords (table : String) (base : Option String) (l : Listing) :
    Alike R Eq (a.listRecords table base l : Operation τ (List Value))
      (b.listRecords table base l) := by
  refine h.withBase fun b' _ => ?_
  have rest : ∀ fields, Alike R Eq
      (do
        let parameters ← Operation.ofFault (l.parameters fields)
        let pages := (← MonadState.get).replies.length + 1
        return l.cut (← a.listFrom (Account.tablePath b' table) l parameters pages 0 .null))
      (do
        let parameters ← Operation.ofFault (l.parameters fields)
        let pages := (← MonadState.get).replies.length + 1
        return l.cut (← b.listFrom (Account.tablePath b' table) l parameters pages 0 .null)) := by
    refine fun fields => (Alike.ofFault _).seq fun parameters =>
      Alike.get.bind fun s t related => ?_
    rw [h.replies s t related]
    exact (h.listFrom _ l parameters _ 0 .null).seq fun _ => .pure rfl
  dsimp only
  split
  · exact (h.selectedFields table b' l.exclusions).seq rest
  · exact rest _

theorem converted (table base : String) (fields : Entries) :
    Alike R Eq (a.converted table base fields : Operation τ Entries)
      (b.converted table base fields) :=
  (h.schemaOf base table).seq fun _ => .ofExcept _

/-- Every operation whose own changes of the cache are alike is carried out alike. -/
theorem carryOut (action : ClientAction)
    (changes : ∀ f, action.Changes a f →
      Alike R Eq (Operation.modifyCache f) (Operation.modifyCache f)) :
    Alike R Eq (action.carryOut a) (action.carryOut b) := by
  cases action with
  | listBases => exact h.listBases.seq fun _ => .pure rfl
  | listTables base =>
    exact (h.listTables fun b' resolved => changes _ ⟨b', resolved, rfl⟩).seq fun _ => .pure rfl
  | tableSchema table base refresh =>
    exact (h.tableSchema fun asked b' resolved => changes _ ⟨asked, b', resolved, rfl⟩).seq
      fun _ => .pure rfl
  | setTableSchema table fields base =>
    exact (h.setTableSchema fun b' resolved schema given =>
      changes _ ⟨b', schema, resolved, given, rfl⟩).seq fun _ => .pure rfl
  | validateCredentials => exact h.validateCredentials.seq fun _ => .pure rfl
  | listRecords table base listing =>
    exact (h.listRecords table base listing).seq fun _ => .pure rfl
  | getRecord table record base => exact (h.getRecord table record base).seq fun _ => .pure rfl
  | createRecord table fields base =>
    exact (h.createRecordBy (fun b' _ => h.converted table b') fields).seq fun _ => .pure rfl
  | updateRecord table record fields base =>
    exact (h.updateRecordBy (fun b' _ => h.converted table b') record fields).seq
      fun _ => .pure rfl
  | deleteRecord table record base =>
    exact (h.deleteRecord table record base).seq fun _ => .pure rfl
  | createRecords table records base =>
    exact (h.createRecordsBy (fun b' _ => h.converted table b') records).seq fun _ => .pure rfl
  | updateRecords table updates base =>
    exact (h.updateRecordsBy (fun b' _ => h.converted table b') updates).seq fun _ => .pure rfl
  | deleteRecords table records base =>
    exact (h.deleteRecords table records base).seq fun _ => .pure rfl

end Paired

/-- A property of sessions that requests, notes and changes of the cache keep. -/
structure Lasting (I : Session τ → Prop) : Prop where
  request : ∀ (a : Account) (method path : String) (query : Query) (body : Option Value),
    Keeps I (a.request method path query body)
  journal : ∀ s journal, I s → I { s with journal }
  cache : ∀ s cache, I s → I { s with cache }

namespace Lasting

variable {I : Session τ → Prop} (h : Lasting I) (a : Account)
include h

theorem modifyCache (f : SchemaCache Schema → SchemaCache Schema) :
    Keeps I (Operation.modifyCache f : Operation τ Unit) :=
  .modify fun s held => h.cache s _ held

/-- A client is paired with itself, from every session with the property. -/
theorem paired : Paired (fun s t => s = t ∧ I s) a a where
  base := rfl
  replies := fun _ _ related => related.1 ▸ rfl
  cache := fun _ _ related => related.1 ▸ rfl
  request := fun method path query body => .of_keeps (h.request a method path query body)
  note := fun _ _ => .of_keeps (.modify fun s held => h.journal s _ held)
  fetchTables := .fetchTables
    (fun method path query body => .of_keeps (h.request a method path query body))
    fun f => .of_keeps (h.modifyCache f)
  basic := by
    rintro base table s _ ⟨rfl, held⟩ _
    exact ⟨rfl, h.cache s _ held⟩

/-- Every operation keeps a property that requests, notes and changes of the cache keep. -/
theorem carryOut (action : ClientAction) : Keeps I (action.carryOut a) :=
  ((h.paired a).carryOut action fun f _ => .of_keeps (h.modifyCache f)).keeps

end Lasting

end

end BaseGateway
