import BaseGateway.Proofs.Client.Admitting
import BaseGateway.Proofs.Server.Secrecy

/-!
# Throttling with a configured maximum

The most requests in a window come from the settings, as whatever integer these hold. A client that
is set up with a maximum of one or more is throttled without a fault, whatever happened to it
before; with a maximum below one its limiter fails before every request
(`Serving.client_throttles`). No check stands in between: such a client is set up like any other
(`Serving.client_throttle_fails`).

* a client that is set up has the maximum that the settings in force name (`Serving.client_built`,
  `Connection.inForce_maxRequests`);
* nothing that happens to a session changes the maximum (`Session.reach_maximum`).
-/

namespace BaseGateway

variable {τ : Type}

/-- The most requests of the connection in force are those that the settings in force name. -/
theorem Connection.inForce_maxRequests {env : Environment} {file : SettingsFile} {c : Connection}
    (h : inForce env file = .ok c) : ∃ entries, Settings.inForce file = .ok entries ∧
      (Settings.get entries "max_requests_per_second").asInt = .ok c.maxRequests := by
  obtain ⟨entries, forced, made⟩ := Except.bind_ok h
  unfold ofSettings at made
  dsimp only at made
  obtain ⟨timeout, _, made⟩ := Except.bind_ok made
  obtain ⟨maxRequests, asked, made⟩ := Except.bind_ok made
  obtain rfl := Except.ok.inj made
  exact ⟨entries, forced, asked⟩

/-- Where a client is set up, it is the one of the connection in force. -/
theorem Serving.client_built [OfNat τ 1] {s s' : Server τ} {client : Account × Memory τ}
    (none : s.client = none)
    (built : (Serving.client : Serving τ (Account × Memory τ)).run.run s = (.ok client, s')) :
    ∃ c, Connection.inForce s.environment s.settings = .ok c ∧ client = c.client := by
  unfold Serving.client at built
  rw [run_bind, run_get] at built
  dsimp only at built
  rw [none] at built
  dsimp only at built
  obtain ⟨journal, loaded⟩ := Connection.load_run s.settings s.journal
  rw [run_bind, Serving.connection_run (loaded s.environment)] at built
  cases forced : Connection.inForce s.environment s.settings with
  | error f =>
    rw [forced] at built
    cases built
  | ok c =>
    rw [forced, orFault_ok] at built
    dsimp only at built
    obtain ⟨verdict, s₁, -, built⟩ := run_bind_ok built
    refine ⟨c, rfl, ?_⟩
    cases verdict with
    | rejected reason => cases built
    | accepted summary =>
      cases built
      rfl

/-- A client that is set up without a failure, with its account and its memory. -/
theorem Serving.client_ready [OfNat τ 1] {s : Server τ}
    (ready : ((Serving.client : Serving τ _).run.run s).1.isOk = true) :
    ∃ account memory s',
      (Serving.client : Serving τ _).run.run s = (.ok (account, memory), s') := by
  rcases built : (Serving.client : Serving τ _).run.run s with ⟨e | ⟨account, memory⟩, s'⟩
  · rw [built] at ready
    cases ready
  · exact ⟨account, memory, s', rfl⟩

section

variable [Add τ] [Sub τ] [OfNat τ 0] [LT τ] [DecidableLT τ] [Duration τ]

namespace Operation

/-- A limiter that lets requests through at all does not fail. -/
theorem throttle_open {s : Session τ} (opened : 1 ≤ s.limiter.maximum) :
    ∃ s', (throttle : Operation τ Unit).run.run s = (.ok (), s') := by
  rcases throttle_cases s with ⟨now, journal, limiter, waited⟩ | ⟨closed, _⟩
  · exact ⟨_, waited⟩
  · omega

end Operation

namespace Session

theorem maximum_lasting (maximum : Int) :
    Lasting (fun s : Session τ => s.limiter.maximum = maximum) where
  request := fun a method path query body s held =>
    (a.request_maximum method path query body s).trans held
  journal := fun _ _ held => held
  cache := fun _ _ held => held

theorem Event.maximum {s s' : Session τ} (event : Event s s') :
    s'.limiter.maximum = s.limiter.maximum := by
  cases event with
  | operate a action => exact (maximum_lasting s.limiter.maximum).carryOut a action s rfl
  | world => rfl
  | look => rfl

/-- However a session goes on, the maximum of its limiter stays as it is. -/
theorem reach_maximum {start s : Session τ} (run : Relation.ReflTransGen Event start s) :
    s.limiter.maximum = start.limiter.maximum := by
  induction run with
  | refl => rfl
  | tail _ event ih => exact event.maximum.trans ih

end Session

variable [OfNat τ 1]

/-- A client that is set up from the settings is throttled without a fault before every request, if
the settings allow at least one in a window; otherwise the limiter fails before every request, and
leaves the session as it was. -/
theorem Serving.client_throttles {server server' : Server τ} {account : Account}
    {memory : Memory τ} (none : server.client = none)
    (built : (Serving.client : Serving τ (Account × Memory τ)).run.run server =
      (.ok (account, memory), server'))
    {start s : Session τ} (new : start.toMemory = memory)
    (run : Relation.ReflTransGen Session.Event start s) :
    ∃ entries maximum, Settings.inForce server.settings = .ok entries ∧
      (Settings.get entries "max_requests_per_second").asInt = .ok maximum ∧
      (1 ≤ maximum → ∃ s', (Operation.throttle : Operation τ Unit).run.run s = (.ok (), s')) ∧
      (maximum < 1 → (Operation.throttle : Operation τ Unit).run.run s =
        (.error (.fault .noSuchRequest), s)) := by
  obtain ⟨c, forced, same⟩ := client_built none built
  obtain ⟨rfl, limiter⟩ := Prod.mk.inj same
  obtain ⟨entries, settings, named⟩ := Connection.inForce_maxRequests forced
  have fresh : start.limiter = ⟨c.maxRequests, 1, []⟩ := by rw [new, limiter]
  have maximum : s.limiter.maximum = c.maxRequests := by
    rw [Session.reach_maximum run, fresh]
  have coherent := Session.reach_coherent (by rw [fresh]) run
  refine ⟨entries, c.maxRequests, settings, named, ?_, ?_⟩
  · exact fun opened => Operation.throttle_open (maximum ▸ opened)
  · intro shut
    have closed : s.limiter.maximum < 1 := maximum ▸ shut
    exact Operation.throttle_shut closed (coherent closed)

end

/-- A server with a token of the right form and with a settings file. -/
def Server.configured (settings : String) : Server Float where
  now := 1000
  environment := [("AIRTABLE_PAT", "patABCDEFGHIJKLMN.0123456789abcdef")]
  settings := ⟨"config.json", .text settings⟩

/-- With one request allowed, a client that has listed the bases is still throttled so. -/
theorem Serving.client_throttles_one :
    let server := Server.configured "\x7b\"max_requests_per_second\": 1\x7d"
    ∃ account memory server', (Serving.client : Serving Float _).run.run server =
        (.ok (account, memory), server') ∧
      let start : Session Float := { server.toSurroundings with toMemory := memory }
      let s := ((ClientAction.listBases.carryOut account).run.run start).2
      ∃ entries maximum, Settings.inForce server.settings = .ok entries ∧
        (Settings.get entries "max_requests_per_second").asInt = .ok maximum ∧
        (1 ≤ maximum → ∃ s', (Operation.throttle : Operation Float Unit).run.run s = (.ok (), s')) ∧
        (maximum < 1 → (Operation.throttle : Operation Float Unit).run.run s =
          (.error (.fault .noSuchRequest), s)) := by
  intro server
  have ready : ((Serving.client : Serving Float _).run.run server).1.isOk = true := by
    decide +kernel
  obtain ⟨account, memory, server', built⟩ := Serving.client_ready ready
  refine ⟨account, memory, server', built, ?_⟩
  intro start s
  exact Serving.client_throttles rfl built rfl (.single (.operate account .listBases start))

/-- Settings that allow no request pass every check, and the first request fails in the limiter. -/
theorem Serving.client_throttle_fails :
    let server := Server.configured "\x7b\"max_requests_per_second\": 0\x7d"
    ∃ account memory server', (Serving.client : Serving Float _).run.run server =
        (.ok (account, memory), server') ∧
      ∀ s : Session Float, s.toMemory = memory →
        (Operation.throttle : Operation Float Unit).run.run s =
          (.error (.fault .noSuchRequest), s) := by
  intro server
  have ready : ((Serving.client : Serving Float _).run.run server).1.isOk = true := by
    decide +kernel
  obtain ⟨account, memory, server', built⟩ := Serving.client_ready ready
  obtain ⟨c, forced, same⟩ := Serving.client_built rfl built
  obtain ⟨-, rfl⟩ := Prod.mk.inj same
  have maximum : (Connection.inForce server.environment server.settings).toOption.map
      Connection.maxRequests = some 0 := by decide +kernel
  rw [forced] at maximum
  have zero : c.maxRequests = 0 := Option.some.inj maximum
  refine ⟨account, _, server', built, fun s new => Operation.throttle_shut ?_ ?_⟩
  · rw [new]
    exact zero ▸ Int.zero_lt_one
  · rw [new]

end BaseGateway
