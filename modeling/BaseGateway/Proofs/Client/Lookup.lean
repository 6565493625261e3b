import BaseGateway.Proofs.Client.Override

/-!
# What a lookup comes to

A lookup of a schema that is not cached asks the service once and caches what it is told
(`Account.schemaOf_unknown`). What that is can be read off the reply (`Reply.schemaOf`): where
several descriptions go by the name of the table the last one counts, and the empty schema stands in
where there is none and where the descriptions are refused in a way that can be borne.

* the request for the descriptions goes out, unless the limiter lets none through
  (`Account.fetchTables_cases`);
* caching the descriptions leaves the last one of a name in place (`run_cacheTables_last`).
-/

namespace BaseGateway

/-- The last of several descriptions that has the name of a table. -/
def Schema.lastNamed? (table : String) (described : List (Value × Schema)) : Option Schema :=
  (described.reverse.find? fun d => d.1.sameKey (.text table)).map Prod.snd

/-- The descriptions of tables in a reply, with the names of the tables. -/
def Reply.descriptions (r : Reply) : Except Failure (List (Value × Schema)) := do
  let data ← r.document
  Except.orFault do (← data.itemsUnder "tables").mapM Schema.ofDescription

theorem Reply.descriptions_error {r : Reply} {e : Failure} (read : r.document = .error e) :
    r.descriptions = .error e := by
  rw [descriptions, read]
  rfl

theorem Reply.descriptions_ok {r : Reply} {data : Value} (read : r.document = .ok data) :
    r.descriptions =
      Except.orFault (data.itemsUnder "tables" >>= fun tables =>
        tables.mapM Schema.ofDescription) := by
  rw [descriptions, read]
  rfl

/-- The schema of a table according to the reply to a request for the descriptions of the tables of
its base, or the failure that the lookup ends with. -/
def Reply.schemaOf (table : String) (r : Reply) : Except Failure Schema :=
  match r.descriptions with
  | .ok described => .ok ((Schema.lastNamed? table described).getD (Schema.basic table))
  | .error (.refused refusal) =>
    if Account.isBearable refusal then .ok (Schema.basic table) else .error (.refused refusal)
  | .error f => .error f

theorem Schema.lastNamed?_cons (table : String) (d : Value × Schema)
    (described : List (Value × Schema)) :
    lastNamed? table (d :: described) =
      (lastNamed? table described).or (if d.1.sameKey (.text table) then some d.2 else none) := by
  unfold lastNamed?
  rw [List.reverse_cons, List.find?_append]
  cases described.reverse.find? fun d => d.1.sameKey (.text table) with
  | some found => rfl
  | none =>
    rw [List.find?_singleton]
    split <;> simp_all

variable {τ : Type}

/-- Setting a schema shows under the name of a table when it is that name. -/
theorem SchemaCache.get?_set_named (cache : SchemaCache Schema) (base table : String) (name : Value)
    (schema : Schema) : (cache.set base name schema).get? base (.text table) =
      if name.sameKey (.text table) then some schema else cache.get? base (.text table) := by
  split
  · next same =>
    obtain rfl := Value.sameKey_text.mp same
    exact get?_set_self
  · next other => exact get?_table_set fun same => other (Value.sameKey_text.mpr same.2)

/-- Descriptions that are set one after the other leave the last one of a name. -/
theorem SchemaCache.get?_setAll_named (base table : String) (described : List (Value × Schema))
    (cache : SchemaCache Schema) : (cache.setAll base described).get? base (.text table) =
      (Schema.lastNamed? table described).or (cache.get? base (.text table)) := by
  unfold setAll
  induction described generalizing cache with
  | nil => rfl
  | cons d described ih =>
    rw [List.foldl_cons, ih, Schema.lastNamed?_cons, get?_set_named]
    cases Schema.lastNamed? table described with
    | some found => rfl
    | none => cases d.1.sameKey (.text table) <;> rfl

/-- Descriptions are cached one after the other, so that the last one of a name stays. -/
theorem run_cacheTables_last (base table : String) (tables : List Value) (s : Session τ) :
    ∃ cache, (Account.cacheTables base tables : Operation τ Unit).run.run s =
        (Except.orFault ((tables.mapM Schema.ofDescription).map fun _ => ()), { s with cache }) ∧
      ∀ described, tables.mapM Schema.ofDescription = .ok described →
        cache.get? base (.text table) =
          (Schema.lastNamed? table described).or (s.cache.get? base (.text table)) := by
  refine ⟨_, Account.run_cacheTables base tables s, fun described read => ?_⟩
  rw [Schema.described_eq read, SchemaCache.get?_setAll_named]

variable [Add τ] [Sub τ] [OfNat τ 0] [LT τ] [DecidableLT τ] [Duration τ]

namespace Account

variable (a : Account)

/-- The request for the descriptions of the tables of a base. -/
def tablesCall (base : String) : Call :=
  a.callTo "GET" s!"meta/bases/{base}/tables" .absent none

/-- How a fetch ends, and what it leaves under the name of a table, according to the descriptions
that came. -/
def Fetched (base table : String) (before after : SchemaCache Schema)
    (outcome : Except Failure (List Value)) : Except Failure (List (Value × Schema)) → Prop
  | .ok described => outcome.isOk = true ∧ after.get? base (.text table) =
      (Schema.lastNamed? table described).or (before.get? base (.text table))
  | .error (.refused refusal) => outcome = .error (.refused refusal) ∧ after = before
  | .error (.fault f) => outcome = .error (.fault f)

/-- Fetching the descriptions asks for them once and caches them, unless the limiter lets nothing
through. -/
theorem fetchTables_cases (base table : String) (s : Session τ) :
    (∃ instant outcome s', (a.fetchTables base : Operation τ (List Value)).run.run s =
        (outcome, s') ∧
      s'.sent = s.sent ++ [(instant, a.tablesCall base)] ∧
      Fetched base table s.cache s'.cache outcome
        (Operation.nextReply s.toSurroundings).descriptions) ∨
    s.limiter.maximum < 1 ∧ ∃ limiter, (a.fetchTables base : Operation τ (List Value)).run.run s =
      (.error (.fault .noSuchRequest), { s with limiter }) := by
  unfold fetchTables
  rw [run_bind]
  rcases a.request_cases "GET" s!"meta/bases/{base}/tables" .absent none s with closed | asked
  · right
    obtain ⟨full, limiter, failed⟩ := closed
    rw [failed]
    exact ⟨full, limiter, rfl⟩
  · left
    obtain ⟨instant, s', ran, kept, sent, -⟩ := asked
    rw [ran]
    cases read : (Operation.nextReply s.toSurroundings).document with
    | error e =>
      rw [Reply.descriptions_error read]
      cases e with
      | fault f => exact ⟨instant, _, s', rfl, sent, rfl⟩
      | refused refusal => exact ⟨instant, _, s', rfl, sent, rfl, kept⟩
    | ok data =>
      rw [Reply.descriptions_ok read]
      dsimp only
      rw [run_bind, Operation.run_ofFault]
      cases data.itemsUnder "tables" with
      | error f => exact ⟨instant, _, s', rfl, sent, rfl⟩
      | ok tables =>
        obtain ⟨cache, ran, last⟩ := run_cacheTables_last base table tables s'
        rw [orFault_ok]
        dsimp only
        rw [run_bind, ran]
        have described : (Except.ok tables >>= fun tables => tables.mapM Schema.ofDescription) =
            tables.mapM Schema.ofDescription := rfl
        rw [described]
        cases told : tables.mapM Schema.ofDescription with
        | error f => exact ⟨instant, _, _, rfl, sent, rfl⟩
        | ok all => exact ⟨instant, _, _, rfl, sent, rfl, kept ▸ last all told⟩

section Unknown

variable {a} {base : String} (table : String) {s s' : Session τ}

theorem tryFetchTables_ok {tables : List Value}
    (fetched : (a.fetchTables base : Operation τ (List Value)).run.run s = (.ok tables, s')) :
    (a.tryFetchTables base table : Operation τ Unit).run.run s = (.ok (), s') := by
  unfold tryFetchTables
  rw [run_tryCatch, run_bind, fetched]
  rfl

theorem tryFetchTables_fault {f : Fault}
    (fetched : (a.fetchTables base : Operation τ (List Value)).run.run s =
      (.error (.fault f), s')) :
    (a.tryFetchTables base table : Operation τ Unit).run.run s = (.error (.fault f), s') := by
  unfold tryFetchTables
  rw [run_tryCatch, run_bind, fetched]
  rfl

/-- A refusal of the descriptions is borne, with a note, or passed on. -/
theorem tryFetchTables_refused {r : Refusal}
    (fetched : (a.fetchTables base : Operation τ (List Value)).run.run s =
      (.error (.refused r), s')) :
    ∃ journal, (a.tryFetchTables base table : Operation τ Unit).run.run s =
      (if isBearable r then .ok () else .error (.refused r), { s' with journal }) := by
  unfold tryFetchTables
  rw [run_tryCatch, run_bind, fetched]
  dsimp only
  cases isBearable r with
  | true => exact ⟨_, rfl⟩
  | false => exact ⟨s'.journal, rfl⟩

variable {table} (unknown : s.cache.get? base (.text table) = none)
include unknown

theorem schemaOf_tried_error {e : Failure}
    (tried : (a.tryFetchTables base table : Operation τ Unit).run.run s = (.error e, s')) :
    (a.schemaOf base table : Operation τ Schema).run.run s = (.error e, s') := by
  unfold schemaOf
  rw [run_bind, run_get]
  dsimp only
  rw [unknown]
  dsimp only
  rw [run_bind, tried]

/-- Behind the fetch the schema that came is given, or the empty one, and it is cached. -/
theorem schemaOf_tried_ok
    (tried : (a.tryFetchTables base table : Operation τ Unit).run.run s = (.ok (), s'))
    {schema : Schema}
    (found : (s'.cache.get? base (.text table)).getD (Schema.basic table) = schema) :
    ∃ s'', (a.schemaOf base table : Operation τ Schema).run.run s = (.ok schema, s'') ∧
      s''.sent = s'.sent ∧ s''.cache.get? base (.text table) = some schema := by
  unfold schemaOf
  rw [run_bind, run_get]
  dsimp only
  rw [unknown]
  dsimp only
  rw [run_bind, tried]
  dsimp only
  rw [run_bind, run_get]
  dsimp only
  cases cached : s'.cache.get? base (.text table) with
  | some known =>
    obtain rfl : known = schema := by rwa [cached] at found
    exact ⟨s', rfl, rfl, cached⟩
  | none =>
    obtain rfl : Schema.basic table = schema := by rwa [cached] at found
    exact ⟨_, rfl, rfl, SchemaCache.get?_set_self⟩

/-- A lookup of a schema that is not cached asks for the descriptions once, and caches what it
gives; a limiter that lets nothing through may make it fail before that. -/
theorem schemaOf_unknown :
    (∃ instant s', (a.schemaOf base table : Operation τ Schema).run.run s =
        ((Operation.nextReply s.toSurroundings).schemaOf table, s') ∧
      s'.sent = s.sent ++ [(instant, a.tablesCall base)] ∧
      ∀ schema, (Operation.nextReply s.toSurroundings).schemaOf table = .ok schema →
        s'.cache.get? base (.text table) = some schema) ∨
    s.limiter.maximum < 1 ∧ ∃ limiter, (a.schemaOf base table : Operation τ Schema).run.run s =
      (.error (.fault .noSuchRequest), { s with limiter }) := by
  rcases a.fetchTables_cases base table s with asked | closed
  · left
    obtain ⟨instant, outcome, s', ran, sent, told⟩ := asked
    unfold Reply.schemaOf
    cases described : (Operation.nextReply s.toSurroundings).descriptions with
    | ok all =>
      rw [described] at told
      obtain ⟨fine, found⟩ := told
      cases outcome with
      | error e => cases fine
      | ok tables =>
        rw [unknown, Option.or_none] at found
        obtain ⟨s'', looked, same, cached⟩ :=
          schemaOf_tried_ok unknown (tryFetchTables_ok table ran) (congrArg (Option.getD · _) found)
        exact ⟨instant, s'', looked, same ▸ sent, fun _ h => Except.ok.inj h ▸ cached⟩
    | error e =>
      rw [described] at told
      cases e with
      | fault f =>
        obtain rfl : outcome = .error (.fault f) := told
        exact ⟨instant, s', schemaOf_tried_error unknown (tryFetchTables_fault table ran), sent,
          fun _ same => by cases same⟩
      | refused refusal =>
        obtain ⟨rfl, kept⟩ := told
        obtain ⟨journal, tried⟩ := tryFetchTables_refused table ran
        dsimp only
        cases bearable : isBearable refusal with
        | true =>
          rw [bearable] at tried
          have missing : s'.cache.get? base (.text table) = none := kept ▸ unknown
          obtain ⟨s'', looked, same, cached⟩ := schemaOf_tried_ok unknown tried
            (congrArg (Option.getD · (Schema.basic table)) missing)
          exact ⟨instant, s'', looked, same ▸ sent, fun _ h => Except.ok.inj h ▸ cached⟩
        | false =>
          rw [bearable] at tried
          exact ⟨instant, _, schemaOf_tried_error unknown tried, sent,
            fun _ same => by cases same⟩
  · right
    obtain ⟨full, limiter, failed⟩ := closed
    exact ⟨full, limiter, schemaOf_tried_error unknown (tryFetchTables_fault table failed)⟩

end Unknown

end Account

end BaseGateway
