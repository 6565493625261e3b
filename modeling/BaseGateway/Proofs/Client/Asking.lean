import BaseGateway.Proofs.Client.Frame
import BaseGateway.Proofs.SchemaCache

/-!
# What a request does

A request waits for the limiter, sends one call and reads the next reply (`Account.request_cases`).
A limiter that lets requests through at all never fails (`Limiter.wait_cases`); where it fails,
nothing is sent. What the client remembers of schemas stays as it is either way, and a schema that it
remembers is given without a request (`Account.schemaOf_known`). Descriptions of tables that a reply
brings are cached up to the first that cannot be read (`Account.run_cacheTables`).
-/

namespace BaseGateway

variable {τ : Type}

theorem Operation.run_modifyCache (f : SchemaCache Schema → SchemaCache Schema) (s : Session τ) :
    (modifyCache f).run.run s = (.ok (), { s with cache := f s.cache }) := rfl

namespace Schema

variable {tables : List Value}

/-- The descriptions of tables in front of the first that cannot be read, with their names. -/
def described : List Value → List (Value × Schema)
  | [] => []
  | table :: rest =>
    match ofDescription table with
    | .ok d => d :: described rest
    | .error _ => []

theorem described_eq {all : List (Value × Schema)} (read : tables.mapM ofDescription = .ok all) :
    described tables = all := by
  have each := Except.mapM_forall₂ read
  clear read
  induction each with
  | nil => rfl
  | cons first _ ih => rw [described, first, ih]

theorem mem_described {d : Value × Schema} (mem : d ∈ described tables) :
    ∃ table ∈ tables, ofDescription table = .ok d := by
  induction tables with
  | nil => cases mem
  | cons table rest ih =>
    rw [described] at mem
    split at mem
    · next first read =>
      rcases List.mem_cons.mp mem with rfl | later
      · exact ⟨table, List.mem_cons_self, read⟩
      · obtain ⟨other, inside, is⟩ := ih later
        exact ⟨other, List.mem_cons_of_mem _ inside, is⟩
    · cases mem

end Schema

/-- Caching descriptions changes the cache alone, and fails where one of them cannot be read. -/
theorem Account.run_cacheTables (base : String) (tables : List Value) (s : Session τ) :
    (cacheTables base tables : Operation τ Unit).run.run s =
      (Except.orFault ((tables.mapM Schema.ofDescription).map fun _ => ()),
        { s with cache := s.cache.setAll base (Schema.described tables) }) := by
  induction tables generalizing s with
  | nil => rfl
  | cons table rest ih =>
    unfold cacheTables
    rw [run_bind, Operation.run_ofFault, List.mapM_cons, Schema.described]
    cases Schema.ofDescription table with
    | error f => rfl
    | ok d =>
      rw [orFault_ok]
      dsimp only
      rw [run_bind, Operation.run_modifyCache]
      dsimp only
      rw [ih]
      cases rest.mapM Schema.ofDescription <;> rfl

/-- An operation goes on with the base that is resolved. -/
theorem Account.baseFor_bind {α : Type} {a : Account} {named : Option String} {base : String}
    (resolved : a.resolveBase named = .ok base) (next : String → Operation τ α) :
    a.baseFor named >>= next = next base := by
  unfold baseFor
  rw [resolved]
  rfl

theorem Account.run_baseFor {α : Type} {a : Account} {base : Option String} {b : String}
    (resolved : a.resolveBase base = .ok b) (next : String → Operation τ α) (s : Session τ) :
    (a.baseFor base >>= next).run.run s = (next b).run.run s := by
  rw [baseFor_bind resolved]

/-- Without a base nothing is done. -/
theorem Account.run_baseFor_none {α : Type} {a : Account} {base : Option String} {r : Refusal}
    (none : a.resolveBase base = .error r) (next : String → Operation τ α) (s : Session τ) :
    (a.baseFor base >>= next).run.run s = (.error (.refused r), s) := by
  unfold Account.baseFor
  rw [none]
  rfl

variable [Add τ] [Sub τ] [OfNat τ 0] [LT τ] [DecidableLT τ] [Duration τ]

/-- A client with a base of its own, for concrete runs. -/
def Account.based : Account where
  token := "patABCDEFGHIJKLMN.0123456789abcdef"
  base := some "appABCDEFGHIJKLMN"
  timeout := .int 30

omit [Duration τ] in
/-- A limiter tells how long to wait, unless it lets no request through. -/
theorem Limiter.wait_cases (l : Limiter τ) (now : τ) :
    (∃ wait, (l.wait now).1 = .ok wait) ∨
      l.maximum < 1 ∧ (l.wait now).1 = .error .noSuchRequest := by
  unfold wait
  cases room : (l.prune now).hasRoom with
  | true => exact .inl ⟨0, by simp only [room, if_true]⟩
  | false =>
    simp only [room, Bool.false_eq_true, if_false]
    cases found : (l.prune now).times[(l.prune now).waitIndex]? with
    | some oldest => exact .inl ⟨_, rfl⟩
    | none =>
      refine .inr ⟨?_, rfl⟩
      -- Without room there are as many instants as the maximum, so one above nought finds its own.
      have full : ¬((l.prune now).times.length : Int) < l.maximum := of_decide_eq_false room
      have beyond := List.getElem?_eq_none_iff.mp found
      have same : (l.prune now).maximum = l.maximum := rfl
      rw [waitIndex, same] at beyond
      split at beyond <;> omega

/-- Waiting changes the clock, the journal and the limiter at most, and fails only for a limiter that
lets no request through. -/
theorem Operation.throttle_cases (s : Session τ) :
    (∃ now journal limiter, (throttle : Operation τ Unit).run.run s =
      (.ok (), { s with now, journal, limiter })) ∨
    s.limiter.maximum < 1 ∧ ∃ limiter, (throttle : Operation τ Unit).run.run s =
      (.error (.fault .noSuchRequest), { s with limiter }) := by
  unfold throttle
  simp only [run_bind, run_get, run_set]
  rcases s.limiter.wait_cases s.now with ⟨wait, told⟩ | ⟨closed, failed⟩
  · left
    rcases waited : s.limiter.wait s.now with ⟨answer, limiter⟩
    rw [waited] at told
    obtain rfl : answer = .ok wait := told
    simp only [run_ofFault, orFault_ok]
    by_cases long : 0 < wait
    · simp only [long, if_true, run_bind, run_note, run_modify]
      exact ⟨_, _, _, rfl⟩
    · simp only [long, if_false, run_modify]
      exact ⟨s.now, s.journal, _, rfl⟩
  · right
    rcases waited : s.limiter.wait s.now with ⟨answer, limiter⟩
    rw [waited] at failed
    obtain rfl : answer = .error .noSuchRequest := failed
    exact ⟨closed, limiter, rfl⟩

namespace Account

/-- The call that a request sends. -/
def callTo (a : Account) (method path : String) (query : Query) (body : Option Value) : Call where
  method
  url := serviceUrl ++ "/" ++ path
  query
  body
  timeout := a.timeout
  authorization := "Bearer " ++ a.token

/-- A request goes out, unless the limiter lets none through. -/
theorem request_cases (a : Account) (method path : String) (query : Query) (body : Option Value)
    (s : Session τ) :
    (s.limiter.maximum < 1 ∧ ∃ limiter, (a.request method path query body).run.run s =
      (.error (.fault .noSuchRequest), { s with limiter })) ∨
    ∃ instant s', (a.request method path query body).run.run s =
        ((Operation.nextReply s.toSurroundings).document, s') ∧
      s'.cache = s.cache ∧ s'.sent = s.sent ++ [(instant, a.callTo method path query body)] ∧
      s'.replies = s.replies.tail := by
  unfold request
  rcases Operation.throttle_cases s with
    ⟨now, journal, limiter, waited⟩ | ⟨closed, limiter, failed⟩
  · refine .inr ⟨now, ?_⟩
    simp only [run_bind, waited, Operation.run_note, Operation.exchange_run,
      Operation.run_ofExcept]
    exact ⟨_, rfl, rfl, rfl, rfl⟩
  · refine .inl ⟨closed, limiter, ?_⟩
    rw [run_bind, failed]

/-- Requests do not touch what is cached. -/
theorem request_cache (a : Account) (method path : String) (query : Query) (body : Option Value)
    (s : Session τ) : ((a.request method path query body).run.run s).2.cache = s.cache := by
  rcases a.request_cases method path query body s with ⟨-, limiter, h⟩ | h
  · rw [h]
  · obtain ⟨instant, s', ran, kept, -⟩ := h
    rw [ran, kept]

/-- A cached schema is given as it is. -/
theorem schemaOf_known (a : Account) {s : Session τ} {base table : String} {schema : Schema}
    (known : s.cache.get? base (.text table) = some schema) :
    (a.schemaOf base table : Operation τ Schema).run.run s = (.ok schema, s) := by
  unfold schemaOf
  rw [run_bind, run_get]
  dsimp only
  rw [known]
  rfl

end Account

end BaseGateway
