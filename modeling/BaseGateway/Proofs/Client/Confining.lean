import Mathlib.Data.Rat.Defs
import BaseGateway.Proofs.Client.Sending

/-!
# Which schemas an operation touches

An operation works in one base at most, and wherever it ends, what is cached of the other bases is as
it was, entry by entry. An operation that needs no schema leaves the whole cache as it was. Behind a
listing of the tables of a base the tables of that base that are cached are the ones in the answer
(`ClientAction.carryOut_confined`).

* every operation keeps what changes for its base keep (`ClientAction.carryOut_keeps`);
* a listing that succeeds leaves all that the answer describes in place of what was known
  (`Account.listTables_ok`).
-/

namespace BaseGateway

/-- The names of the tables that a reply lists. -/
def Reply.tableNames (r : Reply) : Except Failure (List Value) := do
  let data ← r.document
  Except.orFault do (← data.itemsUnder "tables").mapM (Value.item · "name")

namespace ClientAction

/-- The base that an operation works in, if it works in one. -/
def base? (a : Account) : ClientAction → Option String
  | .listBases => none
  | .validateCredentials => a.base.filter (!·.isEmpty)
  | .listTables named | .tableSchema _ named _ | .setTableSchema _ _ named
  | .listRecords _ named _ | .getRecord _ _ named | .createRecord _ _ named
  | .updateRecord _ _ _ named | .deleteRecord _ _ named | .createRecords _ _ named
  | .updateRecords _ _ named | .deleteRecords _ _ named => (a.resolveBase named).toOption

/-- Operations that do without the schema of a table. -/
def NeedsNoSchema : ClientAction → Prop
  | .listBases | .getRecord _ _ _ | .deleteRecord _ _ _ | .deleteRecords _ _ _ => True
  | .listRecords _ _ l => l.fields ≠ []
  | _ => False

end ClientAction

theorem Value.asText?_eq_some {v : Value} {s : String} : v.asText? = some s ↔ v = .text s := by
  cases v <;> simp [asText?]

/-- What holds of the base that is reached, if one is. -/
theorem Account.AtBase.of_option {a : Account} {named : Option String} {p : String → Prop}
    (h : ∀ base ∈ (a.resolveBase named).toOption, p base) : a.AtBase named p := by
  intro base reached
  exact h base (by rw [reached]; rfl)

variable {τ : Type}

/-- Whatever an operation sends, it keeps the property of the cache, whether its result is needed or
not. -/
theorem Sends.keeps {α : Type} {I : SchemaCache Schema → Prop} {n : Nat} {Q : α → Prop}
    {x : Operation τ α} (h : Sends I (fun _ => True) n Q x) {s : Session τ} (held : I s.cache) :
    I ((do let _ ← x : Operation τ Unit).run.run s).2.cache :=
  ((h.bind (n := 0) (R := fun _ => True) fun _ _ => .pure trivial) s held).1

/-- Descriptions that are cached with success are all cached, in their order. -/
theorem run_cacheTables_ok {base : String} {tables : List Value} {s s' : Session τ}
    (cached : (Account.cacheTables base tables : Operation τ Unit).run.run s = (.ok (), s')) :
    ∃ described, tables.mapM Schema.ofDescription = .ok described ∧
      s'.cache = s.cache.setAll base described := by
  rw [Account.run_cacheTables] at cached
  obtain ⟨outcome, rfl⟩ := Prod.mk.inj cached
  cases read : tables.mapM Schema.ofDescription with
  | error f =>
    rw [read] at outcome
    cases outcome
  | ok described => exact ⟨described, rfl, by rw [Schema.described_eq read]⟩

/-- The name in the description of a table is the name that its schema is cached under. -/
theorem Schema.ofDescription_name {table : Value} {described : Value × Schema}
    (read : ofDescription table = .ok described) : table.item "name" = .ok described.1 := by
  unfold ofDescription at read
  obtain ⟨name, found, read⟩ := Except.bind_ok read
  obtain ⟨id, -, read⟩ := Except.bind_ok read
  obtain ⟨items, -, read⟩ := Except.bind_ok read
  obtain ⟨fields, -, read⟩ := Except.bind_ok read
  obtain ⟨_, -, read⟩ := Except.bind_ok read
  obtain rfl := Except.ok.inj read
  exact found

theorem Schema.names_described {tables : List Value} {described : List (Value × Schema)}
    (read : tables.mapM ofDescription = .ok described) :
    tables.mapM (Value.item · "name") = .ok (described.map Prod.fst) := by
  refine Except.mapM_of_forall₂ ?_
  rw [List.forall₂_map_right_iff]
  exact (Except.mapM_forall₂ read).imp fun _ _ => ofDescription_name

variable [Add τ] [Sub τ] [OfNat τ 0] [LT τ] [DecidableLT τ] [Duration τ]

namespace Account

variable (a : Account)

/-- A fetch that succeeds caches what the reply describes. -/
theorem fetchTables_ok {base : String} {tables : List Value} {s s' : Session τ}
    (fetched : (a.fetchTables base : Operation τ (List Value)).run.run s = (.ok tables, s')) :
    ∃ described, (Operation.nextReply s.toSurroundings).tableNames =
        .ok (described.map Prod.fst) ∧
      s'.cache = s.cache.setAll base described := by
  unfold fetchTables at fetched
  obtain ⟨data, t, answered, fetched⟩ := run_bind_ok fetched
  obtain ⟨listed, u, items, fetched⟩ := run_bind_ok fetched
  obtain ⟨under, rfl⟩ := Prod.mk.inj items
  rw [orFault_eq_ok] at under
  obtain ⟨_, u, cached, fetched⟩ := run_bind_ok fetched
  obtain ⟨-, rfl⟩ := Prod.mk.inj fetched
  obtain ⟨described, read, same⟩ := run_cacheTables_ok cached
  have kept := a.request_cache "GET" s!"meta/bases/{base}/tables" .absent none s
  rw [answered] at kept
  refine ⟨described, ?_, by rw [same, kept]⟩
  rcases a.request_cases "GET" s!"meta/bases/{base}/tables" .absent none s with closed | asked
  · -- A request that the limiter does not let through brings nothing to cache.
    obtain ⟨-, limiter, failed⟩ := closed
    rw [failed] at answered
    cases answered
  · obtain ⟨instant, s'', ran, -⟩ := asked
    rw [ran] at answered
    obtain ⟨document, -⟩ := Prod.mk.inj answered
    unfold Reply.tableNames
    rw [document]
    change Except.orFault (data.itemsUnder "tables" >>= fun items => _) = _
    rw [under, orFault_eq_ok]
    exact Schema.names_described read

/-- A listing of tables that succeeds leaves what the reply describes in place of what was known
about its base. -/
theorem listTables_ok {named : Option String} {shown : List Value} {s s' : Session τ}
    (listed : (a.listTables named : Operation τ (List Value)).run.run s = (.ok shown, s')) :
    ∃ base described, a.resolveBase named = .ok base ∧
      (Operation.nextReply s.toSurroundings).tableNames = .ok (described.map Prod.fst) ∧
      s'.cache = (s.cache.dropBase base).setAll base described := by
  unfold listTables at listed
  obtain ⟨base, t, resolved, listed⟩ := run_bind_ok listed
  obtain ⟨reached, rfl⟩ := Prod.mk.inj resolved
  rw [orRefused_eq_ok] at reached
  obtain ⟨_, t, dropped, listed⟩ := run_bind_ok listed
  obtain ⟨-, rfl⟩ := Prod.mk.inj dropped
  obtain ⟨tables, t, fetched, listed⟩ := run_bind_ok listed
  obtain ⟨-, rfl⟩ := Prod.mk.inj listed
  obtain ⟨described, names, same⟩ := a.fetchTables_ok fetched
  exact ⟨base, described, reached, names, same⟩

/-- A check of the token keeps what changes for the base keep that is set up. -/
theorem validateCredentials_sends {I : SchemaCache Schema → Prop}
    (kept : ∀ base ∈ a.base.filter (!·.isEmpty), SchemaCache.KeptAt base I) :
    Sends I (fun _ => True) 0 (fun _ => True) (a.validateCredentials : Operation τ String) := by
  unfold validateCredentials
  split
  · exact (a.listBases_sends fun _ => trivial).seq fun _ _ => .pure trivial
  · next base own =>
    refine Sends.seq (Q := fun _ => True) ?_ fun _ _ => .pure trivial
    refine .tryCatch (fetchTables_sends a (kept base own) trivial) fun e => ?_
    cases e <;> exact .throw _

/-- A listing with fields of its own asks for them without a look at the schema. -/
theorem listRecords_wanted (table : String) (named : Option String) {l : Listing}
    (wanted : l.fields ≠ []) :
    (a.listRecords table named l : Operation τ (List Value)) =
      a.baseFor named >>= fun base => a.listPages (tablePath base table) l (l.fields.map .text) := by
  have given : l.fields.isEmpty = false := by simpa using wanted
  unfold listRecords
  simp only [given, Bool.false_eq_true, if_false]
  rfl

end Account

namespace ClientAction

variable {a : Account} {action : ClientAction} {I : SchemaCache Schema → Prop}

/-- What is done without a schema keeps every property of the cache. -/
theorem NeedsNoSchema.keeps (h : action.NeedsNoSchema) {s : Session τ} (held : I s.cache) :
    I ((action.carryOut a).run.run s).2.cache := by
  cases action with
  | listBases => exact (a.listBases_sends fun _ => trivial).keeps held
  | getRecord table record named =>
    exact (a.getRecord_sends record fun _ _ => trivial).keeps held
  | deleteRecord table record named =>
    exact (a.deleteRecord_sends record fun _ _ => trivial).keeps held
  | deleteRecords table records named =>
    exact (a.deleteRecords_sends records fun _ _ _ _ => trivial).keeps held
  | listRecords table named l =>
    have pages : Sends I (fun _ => True) 0 (fun _ => True)
        (a.listRecords table named l : Operation τ (List Value)) := by
      rw [a.listRecords_wanted table named h]
      exact (Account.baseFor_sends a named).seq fun base _ =>
        (a.listPages_sends fun _ _ _ => trivial).mono (Nat.le_refl 0) fun _ _ => trivial
    exact pages.keeps held
  | _ => exact h.elim

/-- Every operation keeps what changes for its base keep. -/
theorem carryOut_keeps (kept : ∀ base ∈ action.base? a, SchemaCache.KeptAt base I) {s : Session τ}
    (held : I s.cache) : I ((action.carryOut a).run.run s).2.cache := by
  have lookup (table : String) {named : Option String}
      (kept : ∀ base ∈ (a.resolveBase named).toOption, SchemaCache.KeptAt base I) :
      a.AtBase named fun base => Sends I (fun _ => True) 0 (fun _ => True)
        (a.schemaOf base table : Operation τ Schema) :=
    .of_option fun base reached => Account.schemaOf_keeps a (kept base reached) trivial table
  -- Operations without a lookup keep everything; the others keep what their lookups keep.
  by_cases free : action.NeedsNoSchema
  · exact free.keeps held
  cases action with
  | listTables named =>
    exact (a.listTables_sends (.of_option kept) fun _ _ => trivial).keeps held
  | tableSchema table named refresh =>
    exact (a.tableSchema_sends (.of_option kept) (fun _ _ => trivial) table refresh).keeps held
  | setTableSchema table fields named =>
    exact (a.setTableSchema_sends table fields (.of_option kept)).keeps held
  | validateCredentials => exact (a.validateCredentials_sends kept).keeps held
  | listRecords table named l =>
    exact (a.listRecords_sends (lookup table kept) l fun _ _ _ _ _ _ => trivial).keeps held
  | createRecord table fields named =>
    exact (a.createRecord_sends (lookup table kept) fields fun _ _ _ _ => trivial).keeps held
  | updateRecord table record fields named =>
    exact (a.updateRecord_sends (lookup table kept) record fields fun _ _ _ => trivial).keeps held
  | createRecords table records named =>
    exact (a.createRecords_sends (lookup table kept) records
      fun _ _ _ _ _ _ => trivial).keeps held
  | updateRecords table changes named =>
    exact (a.updateRecords_sends (lookup table kept) changes
      fun _ _ _ _ _ _ => trivial).keeps held
  | _ => exact absurd trivial free

/-- Wherever an operation ends, what is cached of bases other than its own is as it was, and all that
is cached where it works in no base or needs no schema. A listing of tables that succeeds leaves as
the tables of its base those that the answer names, each once. -/
theorem carryOut_confined (a : Account) (action : ClientAction) (s : Session τ) :
    let run := (action.carryOut a).run.run s
    (∀ base ∈ action.base? a, run.2.cache.dropBase base = s.cache.dropBase base) ∧
    (action.base? a = none ∨ action.NeedsNoSchema → run.2.cache = s.cache) ∧
    ∀ named, action = .listTables named → run.1.isOk = true →
      ∃ base names, action.base? a = some base ∧
        (Operation.nextReply s.toSurroundings).tableNames = .ok names ∧
        run.2.cache.tables base = names.eraseDupsBy fun name known => known.sameName name := by
  refine ⟨fun base own => ?_, fun free => ?_, ?_⟩
  · refine carryOut_keeps (I := (·.dropBase base = s.cache.dropBase base)) (fun b reached => ?_) rfl
    obtain rfl : base = b := Option.some.inj (own.symm.trans reached)
    exact .others _
  · rcases free with nowhere | free
    · refine carryOut_keeps (I := (· = s.cache)) (fun b reached => ?_) rfl
      rw [nowhere] at reached
      cases reached
    · exact free.keeps (I := (· = s.cache)) rfl
  · rintro named rfl fine
    rcases ran : (carryOut a (.listTables named) : Operation τ Unit).run.run s with ⟨_ | _, last⟩
    · rw [ran] at fine
      cases fine
    · obtain ⟨shown, t, listed, rest⟩ := run_bind_ok ran
      obtain ⟨-, rfl⟩ := Prod.mk.inj rest
      obtain ⟨base, described, reached, names, same⟩ := a.listTables_ok listed
      refine ⟨base, described.map Prod.fst, by rw [base?, reached]; rfl, names, ?_⟩
      rw [same, SchemaCache.tables_setAll_dropBase]

/-- A listing brings in two tables and drops a third; a record of the third is then read. -/
theorem carryOut_confined_relisted :
    let _ : Duration ℚ := ⟨fun _ => ""⟩
    let s : Session ℚ :=
      { now := 0, limiter := { maximum := 5, window := 1 }
        replies := [.answer 200 <| "\x7b\"tables\":[\x7b\"name\":\"Tasks\"\x7d," ++
          "\x7b\"name\":\"People\"\x7d,\x7b\"name\":\"Tasks\"\x7d]\x7d"]
        cache := [⟨"appABCDEFGHIJKLMN", .text "Old", .basic "Old"⟩,
          ⟨"appNMLKJIHGFEDCBA", .text "Old", .basic "Old"⟩] }
    let listed := ((listTables none).carryOut .based).run.run s
    let read := ((getRecord "Old" "recABCDEFGHIJKLMN" none).carryOut .based).run.run listed.2
    listed.1.isOk = true ∧
    listed.2.cache.dropBase "appABCDEFGHIJKLMN" =
      [⟨"appNMLKJIHGFEDCBA", .text "Old", .basic "Old"⟩] ∧
    listed.2.cache.tables "appABCDEFGHIJKLMN" = [.text "Tasks", .text "People"] ∧
    read.2.cache = listed.2.cache := by
  intro _ s listed read
  have fine : listed.1.isOk = true := by decide +kernel
  have texts : (Operation.nextReply s.toSurroundings).tableNames.toOption.map
      (·.map Value.asText?) = some [some "Tasks", some "People", some "Tasks"] := by decide +kernel
  have before : s.cache.dropBase "appABCDEFGHIJKLMN" =
      [⟨"appNMLKJIHGFEDCBA", .text "Old", .basic "Old"⟩] := rfl
  have own : "appABCDEFGHIJKLMN" ∈ (listTables none).base? .based := rfl
  -- What has been found out about the session is all that is needed of it from here on.
  clear_value s
  obtain ⟨others, -, tables⟩ := carryOut_confined .based (listTables none) s
  obtain ⟨-, kept, -⟩ :=
    carryOut_confined .based (getRecord "Old" "recABCDEFGHIJKLMN" none) listed.2
  obtain ⟨base, names, reached, told, known⟩ := tables none rfl fine
  obtain rfl : "appABCDEFGHIJKLMN" = base := Option.some.inj (own.symm.trans reached)
  have named : names = [.text "Tasks", .text "People", .text "Tasks"] := by
    rw [told] at texts
    simpa [Except.toOption, List.map_eq_cons_iff, Value.asText?_eq_some] using texts
  rw [named] at known
  exact ⟨fine, (others _ own).trans before, known, kept (.inr trivial)⟩

end ClientAction

end BaseGateway
