import BaseGateway.Proofs.Client.Asking

/-!
# Schemas while the service refuses them

The operations that ask for schemas anew forget the old ones first: a listing all schemas of its
base, a refreshing lookup the schema of its table. When the request then fails, what was forgotten
stays forgotten, or the empty schema takes its place, and everything else is cached as before
(`Account.failing_forgets`).

* a fetch that fails leaves the cache as it was (`fetchTables_failing`);
* a lookup of an uncached table then fails too or falls back to the empty schema
  (`schemaOf_failing`).
-/

namespace BaseGateway

/-- No success: an error status, or no answer at all. -/
def Reply.isFailure : Reply → Bool
  | .answer status _ => !isSuccess status
  | .unreachable _ | .broken _ => true

theorem Reply.document_failure {r : Reply} (h : r.isFailure = true) :
    ∃ e, r.document = .error e := by
  cases r with
  | unreachable reason => exact ⟨_, rfl⟩
  | broken f => exact ⟨_, rfl⟩
  | answer status body =>
    have failed : isSuccess status = false := by simpa [isFailure] using h
    unfold document
    simp only [failed, Bool.false_eq_true, if_false]
    split <;> exact ⟨_, rfl⟩

variable {τ : Type} [Add τ] [Sub τ] [OfNat τ 0] [LT τ] [DecidableLT τ] [Duration τ]

/-- The next request fails. -/
def Session.Failing (s : Session τ) : Prop :=
  (Operation.nextReply s.toSurroundings).isFailure = true

namespace Account

variable (a : Account) {s : Session τ}

theorem request_failing (failing : s.Failing) (method path : String) (query : Query)
    (body : Option Value) :
    ∃ e s', (a.request method path query body).run.run s = (.error e, s') ∧ s'.cache = s.cache := by
  obtain ⟨refusal, refused⟩ := Reply.document_failure failing
  rcases a.request_cases method path query body s with ⟨-, limiter, h⟩ | h
  · exact ⟨_, _, h, rfl⟩
  · obtain ⟨instant, s', ran, kept, -⟩ := h
    rw [refused] at ran
    exact ⟨refusal, s', ran, kept⟩

/-- Nothing is cached where the descriptions of the tables do not come. -/
theorem fetchTables_failing (failing : s.Failing) (base : String) :
    ∃ e s', (a.fetchTables base : Operation τ (List Value)).run.run s = (.error e, s') ∧
      s'.cache = s.cache := by
  obtain ⟨e, s', ran, kept⟩ :=
    a.request_failing failing "GET" s!"meta/bases/{base}/tables" .absent none
  refine ⟨e, s', ?_, kept⟩
  unfold fetchTables
  rw [run_bind, ran]

theorem tryFetchTables_failing (failing : s.Failing) (base table : String) :
    ∃ outcome s', (a.tryFetchTables base table : Operation τ Unit).run.run s = (outcome, s') ∧
      s'.cache = s.cache := by
  obtain ⟨e, s', ran, kept⟩ := a.fetchTables_failing failing base
  unfold tryFetchTables
  rw [run_tryCatch, run_bind, ran]
  cases e with
  | fault f => exact ⟨_, s', rfl, kept⟩
  | refused r =>
    dsimp only
    split
    · exact ⟨_, _, rfl, kept⟩
    · exact ⟨_, s', rfl, kept⟩

/-- A schema that is not cached: the lookup fails, or the empty schema is cached in its place. -/
theorem schemaOf_failing (failing : s.Failing) (base table : String)
    (unknown : s.cache.get? base (.text table) = none) :
    (∃ e s', (a.schemaOf base table : Operation τ Schema).run.run s = (.error e, s') ∧
      s'.cache = s.cache) ∨
    ∃ s', (a.schemaOf base table : Operation τ Schema).run.run s =
        (.ok (Schema.basic table), s') ∧
      s'.cache = s.cache.set base (.text table) (Schema.basic table) := by
  obtain ⟨outcome, s', ran, kept⟩ := a.tryFetchTables_failing failing base table
  unfold schemaOf
  rw [run_bind, run_get]
  dsimp only
  rw [unknown]
  dsimp only
  rw [run_bind, ran]
  cases outcome with
  | error e => exact .inl ⟨e, s', rfl, kept⟩
  | ok _ =>
    dsimp only
    rw [run_bind, run_get]
    dsimp only
    rw [kept, unknown]
    exact .inr ⟨_, rfl, congrArg (SchemaCache.set base (.text table) _) kept⟩

/-- A listing that fails has forgotten the schemas of its base. -/
theorem listTables_failing (failing : s.Failing) {base : Option String} {b : String}
    (resolved : a.resolveBase base = .ok b) :
    ((a.listTables base : Operation τ (List Value)).run.run s).2.cache = s.cache.dropBase b := by
  let forgetful : Session τ := { s with cache := s.cache.dropBase b }
  obtain ⟨e, s', ran, kept⟩ := a.fetchTables_failing (s := forgetful) failing b
  unfold listTables
  rw [run_baseFor resolved, run_bind, Operation.run_modifyCache]
  dsimp only
  rw [run_bind, ran]
  exact kept

/-- What was cached before a lookup that fails is cached behind it. -/
theorem schemaOf_failing_known (failing : s.Failing) {b base table : String} {key : Value}
    {schema : Schema} (known : s.cache.get? b key = some schema) :
    ((a.schemaOf base table : Operation τ Schema).run.run s).2.cache.get? b key = some schema := by
  cases cached : s.cache.get? base (.text table) with
  | some found =>
    rw [a.schemaOf_known cached]
    exact known
  | none =>
    rcases a.schemaOf_failing failing base table cached with ⟨e, s', ran, kept⟩ | ⟨s', ran, kept⟩
    · rw [ran, kept]
      exact known
    · rw [ran, kept, SchemaCache.get?_set_table, known]
      rintro ⟨rfl, rfl⟩
      rw [cached] at known
      cases known

/-- What was not cached is the empty schema behind a lookup that falls back. -/
theorem schemaOf_failing_unknown (failing : s.Failing) {base table : String}
    (unknown : s.cache.get? base (.text table) = none) :
    ((a.schemaOf base table : Operation τ Schema).run.run s).2.cache.get? base (.text table) =
      ((a.schemaOf base table : Operation τ Schema).run.run s).1.toOption.map
        fun _ => Schema.basic table := by
  rcases a.schemaOf_failing failing base table unknown with ⟨e, s', ran, kept⟩ | ⟨s', ran, kept⟩
  · rw [ran, kept]
    exact unknown
  · rw [ran, kept]
    exact SchemaCache.get?_set_self

/-- A lookup that refreshes forgets the schema of its table and then looks it up. -/
theorem run_tableSchema_refresh {base : Option String} {b : String} (table : String)
    (resolved : a.resolveBase base = .ok b) :
    (a.tableSchema table base true : Operation τ Schema).run.run s =
      (a.schemaOf b table : Operation τ Schema).run.run
        { s with cache := s.cache.dropTable b (.text table) } := by
  unfold tableSchema
  rw [run_baseFor resolved, if_pos rfl, run_bind, Operation.run_modifyCache]

/-- A lookup that does not refresh only looks the schema up. -/
theorem run_tableSchema {base : Option String} {b : String} (table : String)
    (resolved : a.resolveBase base = .ok b) :
    (a.tableSchema table base false : Operation τ Schema).run.run s =
      (a.schemaOf b table : Operation τ Schema).run.run s := by
  unfold tableSchema
  rw [run_baseFor resolved]
  rfl

/-- Does an operation forget the schema under a key before it asks the service? -/
def Forgets (b : String) (key : Value) : ClientAction → Prop
  | .listTables base => a.resolveBase base = .ok b
  | .tableSchema table base refresh =>
    refresh = true ∧ a.resolveBase base = .ok b ∧ key = .text table
  | _ => False

/-- While the service refuses its tables, a listing has dropped the schemas of its base, and a
refreshing lookup has replaced the schema of its table by the empty one if it falls back and dropped
it if it fails. Every other cached schema stays as it is. -/
theorem failing_forgets (failing : s.Failing) {b : String} {key : Value} {schema : Schema}
    (known : s.cache.get? b key = some schema) :
    (∀ base, let last := ((a.listTables base : Operation τ (List Value)).run.run s).2
      (a.Forgets b key (.listTables base) → last.cache.get? b key = none) ∧
      (¬a.Forgets b key (.listTables base) → last.cache.get? b key = some schema)) ∧
    ∀ table base refresh,
      let (outcome, last) := (a.tableSchema table base refresh : Operation τ Schema).run.run s
      (a.Forgets b key (.tableSchema table base refresh) →
        last.cache.get? b key = outcome.toOption.map fun _ => Schema.basic table) ∧
      (¬a.Forgets b key (.tableSchema table base refresh) →
        last.cache.get? b key = some schema) := by
  refine ⟨fun base => ?_, fun table base refresh => ?_⟩
  · cases resolved : a.resolveBase base with
    | error r =>
      unfold listTables
      rw [run_baseFor_none resolved]
      exact ⟨fun forgets => by simp [Forgets, resolved] at forgets, fun _ => known⟩
    | ok own =>
      have left := a.listTables_failing failing resolved
      dsimp only
      rw [left]
      simp only [Forgets, resolved, Except.ok.injEq]
      refine ⟨?_, fun other => ?_⟩
      · rintro rfl
        exact SchemaCache.get?_dropBase_self
      · rw [SchemaCache.get?_dropBase (Ne.symm other), known]
  · cases resolved : a.resolveBase base with
    | error r =>
      unfold tableSchema
      rw [run_baseFor_none resolved]
      exact ⟨fun forgets => by simp [Forgets, resolved] at forgets, fun _ => known⟩
    | ok own =>
      cases refresh with
      | false =>
        rw [a.run_tableSchema table resolved]
        exact ⟨fun forgets => absurd forgets.1 Bool.false_ne_true,
          fun _ => a.schemaOf_failing_known failing known⟩
      | true =>
        let forgetful : Session τ := { s with cache := s.cache.dropTable own (.text table) }
        have failing' : forgetful.Failing := failing
        rw [a.run_tableSchema_refresh table resolved]
        simp only [Forgets, resolved, true_and, Except.ok.injEq]
        refine ⟨?_, fun other => a.schemaOf_failing_known failing' ?_⟩
        · rintro ⟨rfl, rfl⟩
          exact a.schemaOf_failing_unknown failing' SchemaCache.get?_dropTable_self
        · rw [SchemaCache.get?_dropTable, known]
          rintro ⟨rfl, rfl⟩
          exact other ⟨rfl, rfl⟩

end Account

/-- A session in which the schema of a table was set by hand and the service refuses to list
tables. -/
def Session.refused : Session Float where
  now := 1000
  replies := [.answer 403 ""]
  limiter := { maximum := 5, window := 1 }
  cache := [⟨"appABCDEFGHIJKLMN", .text "Roster", ⟨.text "Roster", .text "Roster",
    [.record [("name", .text "Age"), ("type", .text "number")]]⟩⟩]

/-- A schema that was set by hand is gone behind a refused listing. -/
theorem Account.failing_forgets_roster :
    ∃ schema, Session.refused.Failing ∧
      Session.refused.cache.get? "appABCDEFGHIJKLMN" (.text "Roster") = some schema ∧
      ((based.listTables none : Operation Float _).run.run .refused).2.cache.get?
        "appABCDEFGHIJKLMN" (.text "Roster") = none := by
  have failing : Session.refused.Failing := rfl
  refine ⟨_, failing, rfl, ?_⟩
  exact ((based.failing_forgets failing rfl).1 none).1 rfl

/-- Not every schema that is cached survives: a refused listing drops it, and a refused lookup that
refreshes leaves an empty schema at most. -/
theorem Account.refused_loses :
    ∃ schema, Session.refused.Failing ∧
      Session.refused.cache.get? "appABCDEFGHIJKLMN" (.text "Roster") = some schema ∧
      ((based.listTables none : Operation Float _).run.run .refused).2.cache.get?
        "appABCDEFGHIJKLMN" (.text "Roster") ≠ some schema ∧
      ((based.tableSchema "Roster" none true : Operation Float _).run.run .refused).2.cache.get?
        "appABCDEFGHIJKLMN" (.text "Roster") ≠ some schema := by
  have failing : Session.refused.Failing := rfl
  have resolved : based.resolveBase none = .ok "appABCDEFGHIJKLMN" := rfl
  refine ⟨_, failing, rfl, ?_, ?_⟩
  · rw [based.listTables_failing failing resolved, SchemaCache.get?_dropBase_self]
    exact Option.some_ne_none _ ∘ Eq.symm
  · let forgetful : Session Float :=
      { Session.refused with
        cache := Session.refused.cache.dropTable "appABCDEFGHIJKLMN" (.text "Roster") }
    have failing' : forgetful.Failing := rfl
    rw [based.run_tableSchema_refresh "Roster" resolved,
      based.schemaOf_failing_unknown failing' SchemaCache.get?_dropTable_self]
    intro same
    obtain ⟨_, -, rest⟩ := Option.map_eq_some_iff.mp same
    cases congrArg Schema.fields rest

end BaseGateway
