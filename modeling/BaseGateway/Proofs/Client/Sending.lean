import BaseGateway.Proofs.Client.Asking
import BaseGateway.Proofs.Client.Chunks

/-!
# What operations send

Every operation of the client sends calls of a kind, of which at most a number change something, and
gives results of a kind (`Sends`). Operations that are put together from such operations are such
operations. How a schema is looked up is left open here: what is told of an operation that needs one
is told for every lookup, one that asks the service as well as one that finds the schema cached.

* a lookup sends at most what describes the tables of the base (`Account.schemaOf_sends`), and
  nothing where the schema is cached (`Account.schemaOf_silent`);
* whatever the number of records, a batch sends one call for each of its chunks
  (`Account.createRecords_sends`, `Account.updateRecords_sends`, `Account.deleteRecords_sends`).
-/

namespace BaseGateway

variable {τ α β : Type}

/-- The calls that were sent so far. -/
def Surroundings.outgoing (s : Surroundings τ) : List Call := s.sent.map Prod.snd

/-- Everything that is not only read is changed. -/
def Call.isWrite (c : Call) : Bool := c.method != "GET"

/-- Calls of a kind, of which at most a number change something. -/
structure Within (P : Call → Prop) (writes : Nat) (calls : List Call) : Prop where
  each : ∀ c ∈ calls, P c
  few : calls.countP Call.isWrite ≤ writes

namespace Within

variable {P : Call → Prop} {m n : Nat} {calls calls' : List Call}

theorem nil : Within P n [] := ⟨List.forall_mem_nil P, Nat.zero_le n⟩

theorem mono (h : Within P m calls) (le : m ≤ n) : Within P n calls :=
  ⟨h.each, Nat.le_trans h.few le⟩

theorem append (h : Within P m calls) (h' : Within P n calls') :
    Within P (m + n) (calls ++ calls') := by
  refine ⟨List.forall_mem_append.mpr ⟨h.each, h'.each⟩, ?_⟩
  have first := h.few
  have second := h'.few
  rw [List.countP_append]
  omega

end Within

/-- From caches with a property: an operation keeps it, sends calls of a kind, of which at most a
number change something, and gives results of a kind. -/
def Sends (I : SchemaCache Schema → Prop) (P : Call → Prop) (writes : Nat) (Q : α → Prop)
    (x : Operation τ α) : Prop :=
  ∀ s, I s.cache → I (x.run.run s).2.cache ∧
    (∃ calls, (x.run.run s).2.outgoing = s.outgoing ++ calls ∧ Within P writes calls) ∧
    ∀ a, (x.run.run s).1 = .ok a → Q a

namespace Sends

variable {I : SchemaCache Schema → Prop} {P : Call → Prop} {m n : Nat} {Q : α → Prop}
  {R : β → Prop}

theorem mono {Q' : α → Prop} {x : Operation τ α} (h : Sends I P m Q x) (le : m ≤ n)
    (weaker : ∀ a, Q a → Q' a) : Sends I P n Q' x := by
  intro s held
  obtain ⟨kept, ⟨calls, out, within⟩, given⟩ := h s held
  exact ⟨kept, ⟨calls, out, within.mono le⟩, fun a same => weaker a (given a same)⟩

/-- An operation that sends nothing. -/
theorem silent {x : Operation τ α} (cache : ∀ s, I s.cache → I (x.run.run s).2.cache)
    (sent : ∀ s, (x.run.run s).2.sent = s.sent) (given : ∀ s a, (x.run.run s).1 = .ok a → Q a) :
    Sends I P n Q x :=
  fun s held => ⟨cache s held, ⟨[], by simp [Surroundings.outgoing, sent s], .nil⟩, given s⟩

theorem pure {a : α} (h : Q a) : Sends I P n Q (pure a : Operation τ α) :=
  silent (fun _ held => held) (fun _ => rfl) fun _ _ same => Except.ok.inj same ▸ h

theorem throw (e : Failure) : Sends I P n Q (throw e : Operation τ α) :=
  silent (fun _ held => held) (fun _ => rfl) fun _ _ same => by cases same

theorem get : Sends I P n (fun _ => True) (MonadState.get : Operation τ (Session τ)) :=
  silent (fun _ held => held) (fun _ => rfl) fun _ _ _ => trivial

theorem ofExcept {x : Except Failure α} (h : ∀ a, x = .ok a → Q a) :
    Sends I P n Q (Operation.ofExcept x : Operation τ α) :=
  silent (fun _ held => held) (fun _ => rfl) fun _ => h

theorem ofFault {x : Except Fault α} (h : ∀ a, x = .ok a → Q a) :
    Sends I P n Q (Operation.ofFault x : Operation τ α) :=
  ofExcept fun a same => h a (orFault_eq_ok.mp same)

theorem ofFault_any (x : Except Fault α) :
    Sends I P n (fun _ => True) (Operation.ofFault x : Operation τ α) := ofFault fun _ _ => trivial

theorem ofLogged (x : Logged α) :
    Sends I P n (fun _ => True) (Operation.ofLogged x : Operation τ α) :=
  silent (fun _ held => held) (fun _ => rfl) fun _ _ _ => trivial

theorem note (level : Level) (message : String) :
    Sends I P n (fun _ => True) (Operation.note level message : Operation τ Unit) :=
  silent (fun _ held => held) (fun _ => rfl) fun _ _ _ => trivial

theorem modifyCache {f : SchemaCache Schema → SchemaCache Schema}
    (h : ∀ cache, I cache → I (f cache)) :
    Sends I P n (fun _ => True) (Operation.modifyCache f : Operation τ Unit) :=
  silent (fun s held => h s.cache held) (fun _ => rfl) fun _ _ _ => trivial

theorem bind {x : Operation τ α} {next : α → Operation τ β} (first : Sends I P m Q x)
    (second : ∀ a, Q a → Sends I P n R (next a)) : Sends I P (m + n) R (x >>= next) := by
  intro s held
  obtain ⟨kept, ⟨calls, out, within⟩, given⟩ := first s held
  rw [run_bind]
  rcases ran : x.run.run s with ⟨e | a, s'⟩
  · rw [ran] at kept out
    exact ⟨kept, ⟨calls, out, within.mono (Nat.le_add_right m n)⟩, fun _ same => by cases same⟩
  · rw [ran] at kept out given
    obtain ⟨kept', ⟨calls', out', within'⟩, given'⟩ := second a (given a rfl) s' kept
    refine ⟨kept', ⟨calls ++ calls', ?_, within.append within'⟩, given'⟩
    rw [out', out, List.append_assoc]

/-- What only reads comes before anything else. -/
theorem seq {x : Operation τ α} {next : α → Operation τ β} (first : Sends I P 0 Q x)
    (second : ∀ a, Q a → Sends I P n R (next a)) : Sends I P n R (x >>= next) :=
  (first.bind second).mono (Nat.le_of_eq (Nat.zero_add n)) fun _ given => given

theorem tryCatch {x : Operation τ α} {handler : Failure → Operation τ α} (first : Sends I P 0 Q x)
    (second : ∀ e, Sends I P n Q (handler e)) : Sends I P n Q (tryCatch x handler) := by
  intro s held
  obtain ⟨kept, ⟨calls, out, within⟩, given⟩ := first s held
  rw [run_tryCatch]
  rcases ran : x.run.run s with ⟨e | a, s'⟩
  · rw [ran] at kept out
    obtain ⟨kept', ⟨calls', out', within'⟩, given'⟩ := second e s' kept
    have both := within.append within'
    rw [Nat.zero_add] at both
    refine ⟨kept', ⟨calls ++ calls', ?_, both⟩, given'⟩
    rw [out', out, List.append_assoc]
  · rw [ran] at kept out given
    exact ⟨kept, ⟨calls, out, within.mono (Nat.zero_le n)⟩, given⟩

/-- The items of a list are gone through one after the other. -/
theorem mapM {R : α → β → Prop} {f : α → Operation τ β} {xs : List α}
    (each : ∀ x ∈ xs, Sends I P n (R x) (f x)) :
    Sends I P (n * xs.length) (List.Forall₂ R xs) (xs.mapM f) := by
  induction xs with
  | nil =>
    rw [List.mapM_nil]
    exact pure .nil
  | cons x xs ih =>
    obtain ⟨head, rest⟩ := List.forall_mem_cons.mp each
    rw [List.mapM_cons]
    have tail : ∀ y, R x y → Sends I P (n * xs.length) (List.Forall₂ R (x :: xs))
        (do let ys ← xs.mapM f; return y :: ys) := fun y first =>
      (ih rest).bind (n := 0) fun ys others => pure (.cons first others)
    exact (head.bind tail).mono (by rw [List.length_cons, Nat.mul_succ]; omega) fun _ given => given

end Sends

/-- A number of records above nought bounds them. -/
theorem Listing.length_cut (l : Listing) {count : Int} (asked : count ∈ given l.maxRecords)
    (positive : 0 < count) (records : List Value) : ((l.cut records).length : Int) ≤ count := by
  have bound : given l.maxRecords = some count := asked
  unfold cut takeCount
  simp only [bound, Int.le_of_lt positive, if_true, List.length_take]
  omega

namespace Account

/-- This holds of the base that is reached, if one is. -/
def AtBase (a : Account) (named : Option String) (p : String → Prop) : Prop :=
  ∀ base, a.resolveBase named = .ok base → p base

theorem AtBase.of {a : Account} {named : Option String} {base : String} {p : String → Prop}
    (resolved : a.resolveBase named = .ok base) (h : p base) : a.AtBase named p := by
  intro other found
  obtain rfl := Except.ok.inj (resolved.symm.trans found)
  exact h

variable {I : SchemaCache Schema → Prop} {P : Call → Prop} {n : Nat}

theorem checkBatch_sends (items : List α) :
    Sends I P 0 (fun _ => True) (checkBatch items : Operation τ Unit) := by
  unfold checkBatch
  split
  · exact .throw _
  · exact .pure trivial

theorem baseFor_sends (a : Account) (base : Option String) :
    Sends I P 0 (fun b => a.resolveBase base = .ok b) (a.baseFor base : Operation τ String) :=
  .ofExcept fun _ same => orRefused_eq_ok.mp same

/-- A batch sends what its chunks do. -/
theorem inChunks_sends {step : List α → Operation τ (List β)} {items : List α}
    (each : ∀ chunk ∈ chunks Limits.batch items, Sends I P n (fun _ => True) (step chunk)) :
    Sends I P (n * (chunks Limits.batch items).length) (fun _ => True) (inChunks step items) :=
  (Sends.mapM (R := fun _ _ => True) each).bind (n := 0) fun _ _ => .pure trivial

theorem setTableSchema_sends (a : Account) (table : String) (fields : List Value)
    {named : Option String} (kept : a.AtBase named fun base => SchemaCache.KeptAt base I) :
    Sends I P 0 (fun _ => True) (a.setTableSchema table fields named : Operation τ Schema) :=
  (baseFor_sends a named).seq fun base reached => Sends.get.seq fun _ _ =>
    (Sends.modifyCache fun cache => (kept base reached).set cache _ _).seq fun _ _ => .pure trivial

variable [Add τ] [Sub τ] [OfNat τ 0] [LT τ] [DecidableLT τ] [Duration τ]

/-- A request sends its own call at most. -/
theorem request_sends (a : Account) {method path : String} {query : Query} {body : Option Value}
    (kind : P (a.callTo method path query body))
    (cost : (a.callTo method path query body).isWrite = true → 1 ≤ n) :
    Sends I P n (fun _ => True) (a.request method path query body : Operation τ Value) := by
  intro s held
  refine ⟨a.request_cache method path query body s ▸ held, ?_, fun _ _ => trivial⟩
  rcases a.request_cases method path query body s with ⟨-, limiter, ran⟩ | asked
  · rw [ran]
    exact ⟨[], (List.append_nil _).symm, .nil⟩
  · obtain ⟨instant, s', ran, -, sent, -⟩ := asked
    rw [ran]
    refine ⟨[a.callTo method path query body], ?_, List.forall_mem_singleton.mpr kind, ?_⟩
    · simp [Surroundings.outgoing, sent]
    · rw [List.countP_singleton]
      split
      · next write => exact cost write
      · exact Nat.zero_le n

/-- A request that only reads. -/
theorem get_sends (a : Account) {path : String} {query : Query} {body : Option Value}
    (kind : P (a.callTo "GET" path query body)) :
    Sends I P 0 (fun _ => True) (a.request "GET" path query body : Operation τ Value) :=
  request_sends a kind fun write => by cases write

/-- A request that changes something. -/
theorem write_sends (a : Account) {method path : String} {query : Query} {body : Option Value}
    (kind : P (a.callTo method path query body)) :
    Sends I P 1 (fun _ => True) (a.request method path query body : Operation τ Value) :=
  request_sends a kind fun _ => Nat.le_refl 1

theorem listBasesFrom_sends (a : Account)
    (kind : ∀ query, P (a.callTo "GET" "meta/bases" query none)) (pages : Nat) (offset : Value) :
    Sends I P 0 (fun _ => True) (a.listBasesFrom pages offset : Operation τ (List Value)) := by
  induction pages generalizing offset with
  | zero => exact .pure trivial
  | succ pages ih =>
    unfold listBasesFrom
    refine (get_sends a (kind _)).seq fun data _ => (Sends.ofFault_any _).seq fun found _ => ?_
    refine (Sends.ofFault_any _).seq fun next _ => ?_
    split
    · exact (ih next).seq fun _ _ => .pure trivial
    · exact .pure trivial

theorem listBases_sends (a : Account)
    (kind : ∀ query, P (a.callTo "GET" "meta/bases" query none)) :
    Sends I P 0 (fun _ => True) (a.listBases : Operation τ (List Value)) :=
  Sends.get.seq fun _ _ => listBasesFrom_sends a kind _ _

section Lookup

variable (a : Account) {base : String} (kept : SchemaCache.KeptAt base I)
  (kind : P (a.callTo "GET" s!"meta/bases/{base}/tables" .absent none))
include kept kind

theorem fetchTables_sends :
    Sends I P 0 (fun _ => True) (a.fetchTables base : Operation τ (List Value)) := by
  have cached : ∀ tables : List Value, Sends I P 0 (fun _ => True)
      (cacheTables base tables : Operation τ Unit) := by
    intro tables
    induction tables with
    | nil => exact .pure trivial
    | cons table rest ih =>
      exact (Sends.ofFault_any _).seq fun _ _ =>
        (Sends.modifyCache fun cache => kept.set cache _ _).seq fun _ _ => ih
  exact (get_sends a kind).seq fun _ _ => (Sends.ofFault_any _).seq fun tables _ =>
    (cached tables).seq fun _ _ => .pure trivial

/-- A lookup keeps what changes for its base keep, and asks for the tables of the base at most. -/
theorem schemaOf_keeps (table : String) :
    Sends I P 0 (fun _ => True) (a.schemaOf base table : Operation τ Schema) := by
  have tried : Sends I P 0 (fun _ => True) (a.tryFetchTables base table : Operation τ Unit) := by
    refine .tryCatch ((fetchTables_sends a kept kind).seq fun _ _ => .pure trivial) fun e => ?_
    cases e with
    | refused r =>
      dsimp only
      split
      · exact .note _ _
      · exact .throw _
    | fault f => exact .throw _
  unfold schemaOf
  refine Sends.get.seq fun s _ => ?_
  split
  · exact .pure trivial
  · refine tried.seq fun _ _ => Sends.get.seq fun s' _ => ?_
    split
    · exact .pure trivial
    · exact (Sends.modifyCache fun cache => kept.set cache _ _).seq fun _ _ => .pure trivial

omit kept in
/-- A lookup asks for the tables of the base at most. -/
theorem schemaOf_sends (table : String) :
    Sends (fun _ => True) P 0 (fun _ => True) (a.schemaOf base table : Operation τ Schema) :=
  schemaOf_keeps a .any kind table

end Lookup

section Tables

variable (a : Account) {named : Option String}
  (kept : a.AtBase named fun base => SchemaCache.KeptAt base I)
  (kind : a.AtBase named fun base => P (a.callTo "GET" s!"meta/bases/{base}/tables" .absent none))
include kept kind

theorem listTables_sends :
    Sends I P 0 (fun _ => True) (a.listTables named : Operation τ (List Value)) := by
  refine (baseFor_sends a named).seq fun base reached => ?_
  refine (Sends.modifyCache (kept base reached).dropBase).seq fun _ _ => ?_
  exact (fetchTables_sends a (kept base reached) (kind base reached)).seq fun _ _ => .ofFault_any _

theorem tableSchema_sends (table : String) (refresh : Bool) :
    Sends I P 0 (fun _ => True) (a.tableSchema table named refresh : Operation τ Schema) := by
  refine (baseFor_sends a named).seq fun base reached => ?_
  have lookup := schemaOf_keeps (τ := τ) a (kept base reached) (kind base reached) table
  cases refresh with
  | true =>
    exact (Sends.modifyCache fun cache => (kept base reached).dropTable cache _).seq
      fun _ _ => lookup
  | false => exact lookup

end Tables

/-- A cached schema is looked up without a call. -/
theorem schemaOf_silent (a : Account) {base table : String} {cache : SchemaCache Schema}
    {schema : Schema} (known : cache.get? base (.text table) = some schema) :
    Sends (· = cache) P n (· = schema) (a.schemaOf base table : Operation τ Schema) := by
  have ran (s : Session τ) (held : s.cache = cache) :
      (a.schemaOf base table : Operation τ Schema).run.run s = (.ok schema, s) :=
    a.schemaOf_known (held ▸ known)
  intro s held
  rw [ran s held]
  exact ⟨held, ⟨[], (List.append_nil _).symm, .nil⟩, fun _ same => (Except.ok.inj same).symm⟩

/-- The parameters of a page. -/
def pageQuery (parameters : List (String × Value)) (offset : Value) : Query :=
  .pairs (parameters ++ if offset.isGiven then [("offset", offset)] else [])

theorem listFrom_sends (a : Account) {path : String} {l : Listing}
    {parameters : List (String × Value)}
    (kind : ∀ offset, P (a.callTo "GET" path (pageQuery parameters offset) none))
    (pages known : Nat) (offset : Value) :
    Sends I P 0 (fun _ => True) (a.listFrom path l parameters pages known offset :
      Operation τ (List Value)) := by
  induction pages generalizing known offset with
  | zero => exact .pure trivial
  | succ pages ih =>
    unfold listFrom
    refine (get_sends a (kind offset)).seq fun data _ => (Sends.ofFault_any _).seq fun found _ => ?_
    refine (Sends.ofFault_any _).seq fun next _ => ?_
    dsimp only
    split
    · exact .pure trivial
    · exact (ih _ next).seq fun _ _ => .pure trivial

/-- Lists the records once it is known which fields to ask for. -/
def listPages (a : Account) (path : String) (l : Listing) (fields : List Value) :
    Operation τ (List Value) := do
  let parameters ← Operation.ofFault (l.parameters fields)
  let pages := (← get).replies.length + 1
  return l.cut (← a.listFrom path l parameters pages 0 .null)

/-- A listing asks for pages only, and gives no more records than it was asked for. -/
theorem listPages_sends (a : Account) {path : String} {l : Listing} {fields : List Value}
    (kind : ∀ parameters offset, l.parameters fields = .ok parameters →
      P (a.callTo "GET" path (pageQuery parameters offset) none)) :
    Sends I P 0 (fun records => ∀ count ∈ Listing.given l.maxRecords, 0 < count →
        (records.length : Int) ≤ count)
      (a.listPages path l fields : Operation τ (List Value)) := by
  refine (Sends.ofFault fun _ same => same).seq fun parameters same => Sends.get.seq fun s _ => ?_
  refine (listFrom_sends a (fun offset => kind parameters offset same) _ 0 .null).seq
    fun records _ => .pure fun count asked positive => ?_
  exact l.length_cut asked positive records

section Records

variable (a : Account) {table : String} {named : Option String}

theorem getRecord_sends (record : String)
    (kind : a.AtBase named fun base =>
      P (a.callTo "GET" (tablePath base table record) .absent none)) :
    Sends I P 0 (fun _ => True) (a.getRecord table record named : Operation τ Value) := by
  refine (baseFor_sends a named).seq fun base reached => ?_
  exact (get_sends a (kind base reached)).seq fun _ _ => .ofFault_any _

theorem deleteRecord_sends (record : String)
    (kind : a.AtBase named fun base =>
      P (a.callTo "DELETE" (tablePath base table record) .absent none)) :
    Sends I P 1 (fun _ => True) (a.deleteRecord table record named : Operation τ Value) := by
  refine (baseFor_sends a named).seq fun base reached => ?_
  exact (write_sends a (kind base reached)).bind (n := 0) fun _ _ => .ofFault_any _

/-- A batch of deletions sends one call for each of its chunks. -/
theorem deleteRecords_sends (records : List String)
    (kind : a.AtBase named fun base => ∀ chunk ∈ chunks Limits.batch records,
      P (a.callTo "DELETE" (tablePath base table)
        (.pairs (chunk.map fun record => ("records[]", .text record))) none)) :
    Sends I P (1 * (chunks Limits.batch records).length) (fun _ => True)
      (a.deleteRecords table records named : Operation τ (List Value)) := by
  refine (checkBatch_sends records).seq fun _ _ =>
    (baseFor_sends a named).seq fun base reached => ?_
  exact inChunks_sends fun chunk mem =>
    (write_sends a (kind base reached chunk mem)).bind (n := 0) fun _ _ => .ofFault_any _

/-- Conversion gives every field its value. -/
theorem converted_sends {base : String}
    (lookup : Sends I P 0 (fun _ => True) (a.schemaOf base table : Operation τ Schema))
    (fields : Entries) :
    Sends I P 0 (fun given => given.length = fields.length)
      (a.converted table base fields : Operation τ Entries) := by
  refine lookup.seq fun schema _ => .ofExcept fun given same => ?_
  unfold convertFields at same
  obtain ⟨known, -, same⟩ := Except.bind_ok same
  exact (Except.mapM_forall₂ same).length_eq.symm

variable (lookup : a.AtBase named fun base =>
  Sends I P 0 (fun _ => True) (a.schemaOf base table : Operation τ Schema))
include lookup

theorem listRecords_sends (l : Listing)
    (kind : a.AtBase named fun base => ∀ fields parameters offset,
      l.parameters fields = .ok parameters →
      P (a.callTo "GET" (tablePath base table) (pageQuery parameters offset) none)) :
    Sends I P 0 (fun records => ∀ count ∈ Listing.given l.maxRecords, 0 < count →
        (records.length : Int) ≤ count)
      (a.listRecords table named l : Operation τ (List Value)) := by
  refine (baseFor_sends a named).seq fun base reached => ?_
  have selected : Sends I P 0 (fun _ => True)
      (a.selectedFields table base l.exclusions : Operation τ (List Value)) := by
    unfold selectedFields
    split
    · exact .pure trivial
    · refine (lookup base reached).seq fun schema _ => (Sends.ofFault_any _).seq fun names _ => ?_
      split
      · exact .pure trivial
      · exact (Sends.ofFault_any _).seq fun _ _ => .pure trivial
  dsimp only
  split
  · exact selected.seq fun fields _ => listPages_sends a (kind base reached fields)
  · exact listPages_sends a (kind base reached _)

theorem createRecord_sends (fields : Entries)
    (kind : a.AtBase named fun base => ∀ given : Entries, given.length = fields.length →
      P (a.callTo "POST" (tablePath base table) .absent
        (some (.record [("fields", .dictionary given)])))) :
    Sends I P 1 (fun _ => True) (a.createRecord table fields named : Operation τ Value) := by
  refine (baseFor_sends a named).seq fun base reached => ?_
  refine (converted_sends a (lookup base reached) fields).seq fun given length => ?_
  exact (write_sends a (kind base reached given length)).bind (n := 0) fun _ _ => .ofFault_any _

theorem updateRecord_sends (record : String) (fields : Entries)
    (kind : a.AtBase named fun base => ∀ given : Entries,
      P (a.callTo "PATCH" (tablePath base table record) .absent
        (some (.record [("fields", .dictionary given)])))) :
    Sends I P 1 (fun _ => True) (a.updateRecord table record fields named : Operation τ Value) := by
  refine (baseFor_sends a named).seq fun base reached => ?_
  refine (converted_sends a (lookup base reached) fields).seq fun given _ => ?_
  exact (write_sends a (kind base reached given)).bind (n := 0) fun _ _ => .ofFault_any _

end Records

/-- The bodies of a chunk are written in one call. -/
theorem sendChunk_sends (a : Account) {table method base : String} {R : α → Value → Prop}
    {body : α → Operation τ Value} {chunk : List α}
    (each : ∀ x ∈ chunk, Sends I P 0 (R x) (body x))
    (kind : ∀ bodies, List.Forall₂ R chunk bodies → P (a.callTo method (tablePath base table)
      .absent (some (.record [("records", .list bodies)])))) :
    Sends I P 1 (fun _ => True)
      (a.sendChunk table method base body chunk : Operation τ (List Value)) := by
  have built : Sends I P 0 (List.Forall₂ R chunk) (chunk.mapM body) :=
    (Sends.mapM each).mono (Nat.le_of_eq (Nat.zero_mul _)) fun _ given => given
  refine built.seq fun bodies given => ?_
  exact (write_sends a (kind bodies given)).bind (n := 0) fun _ _ => .ofFault_any _

section Batches

variable (a : Account) {table : String} {named : Option String}
  (lookup : a.AtBase named fun base =>
    Sends I P 0 (fun _ => True) (a.schemaOf base table : Operation τ Schema))
include lookup

/-- A batch of new records sends one call for each of its chunks. -/
theorem createRecords_sends (records : List Entries)
    (kind : a.AtBase named fun base => ∀ chunk ∈ chunks Limits.batch records, ∀ bodies,
      List.Forall₂ (fun _ body => ∃ given, body = .record [("fields", .dictionary given)])
        chunk bodies →
      P (a.callTo "POST" (tablePath base table) .absent
        (some (.record [("records", .list bodies)])))) :
    Sends I P (1 * (chunks Limits.batch records).length) (fun _ => True)
      (a.createRecords table records named : Operation τ (List Value)) := by
  rw [createRecords_eq]
  refine (checkBatch_sends records).seq fun _ _ =>
    (baseFor_sends a named).seq fun base reached => ?_
  refine inChunks_sends fun chunk mem =>
    sendChunk_sends a (fun fields _ => ?_) (kind base reached chunk mem)
  exact (converted_sends a (lookup base reached) fields).seq fun given _ => .pure ⟨given, rfl⟩

/-- A batch of changes sends one call for each of its chunks. -/
theorem updateRecords_sends (changes : List Change)
    (kind : a.AtBase named fun base => ∀ chunk ∈ chunks Limits.batch changes, ∀ bodies,
      List.Forall₂ (fun change body => ∃ given,
        body = .record [("id", .text change.id), ("fields", .dictionary given)]) chunk bodies →
      P (a.callTo "PATCH" (tablePath base table) .absent
        (some (.record [("records", .list bodies)])))) :
    Sends I P (1 * (chunks Limits.batch changes).length) (fun _ => True)
      (a.updateRecords table changes named : Operation τ (List Value)) := by
  rw [updateRecords_eq]
  refine (checkBatch_sends changes).seq fun _ _ =>
    (baseFor_sends a named).seq fun base reached => ?_
  refine inChunks_sends fun chunk mem =>
    sendChunk_sends a (fun change _ => ?_) (kind base reached chunk mem)
  have converted := converted_sends a (lookup base reached) change.fields
  exact converted.seq fun given _ => .pure ⟨given, rfl⟩

end Batches

end Account

end BaseGateway
