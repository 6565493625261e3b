import Mathlib.Logic.Relation
import BaseGateway.Proofs.Client.Frame
import BaseGateway.Proofs.Limiter

/-!
# Requests of a client are spaced

All operations of a client share one limiter. Whatever they are, whatever the network replies and
however long it takes, and however much time passes in between, any two requests that are a maximum
apart have a full window between them (`Session.reach_spaced`). The clock is exact here, and a wait
takes as long as it is meant to.

* one request keeps the instants of all requests in step with the limiter (`request_keeps`);
* so does every operation, since it sends requests in no other way (`lasting`).
-/

namespace BaseGateway

/-- The instants at which the requests of a session were sent. -/
def Session.instants (s : Session ℚ) : List ℚ := s.sent.map Prod.fst

/-- What operations keep: the limiter is in step with the requests, and no reply takes less than no
time. -/
structure Session.InStep (maximum : Int) (window : ℚ) (s : Session ℚ) : Prop where
  maximum : s.limiter.maximum = maximum
  window : s.limiter.window = window
  paced : Paced s.now s.instants s.limiter
  forward : ∀ latency ∈ s.latencies, 0 ≤ latency

theorem Surroundings.await_forward {s : Surroundings ℚ}
    (forward : ∀ latency ∈ s.latencies, 0 ≤ latency) :
    s.now ≤ s.await.now ∧ ∀ latency ∈ s.await.latencies, 0 ≤ latency := by
  unfold Surroundings.await
  cases latencies : s.latencies with
  | nil => exact ⟨le_refl _, by simp [latencies]⟩
  | cons latency rest =>
    rw [latencies] at forward
    have first : 0 ≤ latency := forward latency List.mem_cons_self
    exact ⟨le_add_of_nonneg_right first, fun l mem => forward l (List.mem_cons_of_mem _ mem)⟩

namespace Session

/-- A session in which nothing was sent yet. -/
structure Fresh (s : Session ℚ) : Prop where
  sent : s.sent = []
  times : s.limiter.times = []
  forward : ∀ latency ∈ s.latencies, 0 ≤ latency

theorem Fresh.inStep {s : Session ℚ} (h : s.Fresh) (roomy : 1 ≤ s.limiter.maximum)
    (lasting : 0 < s.limiter.window) : s.InStep s.limiter.maximum s.limiter.window := by
  have none : s.instants = [] := by rw [instants, h.sent, List.map_nil]
  refine ⟨rfl, rfl, ⟨roomy, lasting, ?_, ?_, ⟨_, le_refl _, ?_⟩, ?_⟩, h.forward⟩
  · rw [none]
    exact .nil
  · rw [none]
    exact List.forall_mem_nil _
  · rw [none, h.times, List.filter_nil]
  · rw [none]
    exact .nil

end Session

section Spelled

variable [Duration ℚ]

namespace Operation

/-- A throttled computation goes on when the limiter says, and its instant is recorded. -/
theorem throttle_run {s : Session ℚ} {w : ℚ} {l : Limiter ℚ} (forward : 0 ≤ w)
    (waited : s.limiter.wait s.now = (.ok w, l)) :
    ∃ journal, (throttle : Operation ℚ Unit).run.run s =
      (.ok (), { s with now := s.now + w, journal, limiter := l.record (s.now + w) }) := by
  unfold throttle
  by_cases long : 0 < w
  · refine ⟨s.journal.write .debug s!"Throttling Airtable request for {Duration.text w}s", ?_⟩
    simp only [run_bind, run_get, run_set, waited, run_ofFault, orFault_ok, long, if_true, run_note,
      run_modify]
  · have none : w = 0 := le_antisymm (not_lt.mp long) forward
    subst none
    refine ⟨s.journal, ?_⟩
    simp only [run_bind, run_get, run_set, waited, run_ofFault, orFault_ok, lt_irrefl, if_false,
      run_modify, add_zero]

end Operation

/-- A request is sent at the instant that the limiter records for it. -/
theorem Account.request_keeps (maximum : Int) (window : ℚ) (a : Account) (method path : String)
    (query : Query) (body : Option Value) :
    Keeps (Session.InStep maximum window) (a.request method path query body) := by
  intro s h
  obtain ⟨w, forward, waited, paced⟩ := h.paced.wait
  obtain ⟨journal, throttled⟩ := Operation.throttle_run forward waited
  unfold Account.request
  simp only [run_bind, throttled, Operation.run_note, Operation.exchange_run,
    Operation.run_ofExcept]
  let asked := journal.write .debug s!"{method} {Redaction.redact path}"
  let world := { s.toSurroundings with now := s.now + w, journal := asked }
  obtain ⟨passed, later⟩ := Surroundings.await_forward (s := world) h.forward
  refine ⟨h.maximum, h.window, ?_, later⟩
  have instants : ∀ call, List.map Prod.fst (s.sent ++ [(s.now + w, call)]) =
      s.instants ++ [s.now + w] := fun call => by rw [List.map_append]; rfl
  unfold Session.instants
  dsimp only
  rw [instants]
  exact paced.later passed

/-- Every operation keeps the limiter in step. -/
theorem Session.lasting (maximum : Int) (window : ℚ) : Lasting (InStep maximum window) where
  request := Account.request_keeps maximum window
  journal := fun _ _ h => ⟨h.maximum, h.window, h.paced, h.forward⟩
  cache := fun _ _ h => ⟨h.maximum, h.window, h.paced, h.forward⟩

namespace Session

/-- What can happen to a session: an operation of a client, which may fail; time; a change in what
the network has in store; and a look at the limiter. -/
inductive Step : Session ℚ → Session ℚ → Prop
  | operate (a : Account) (action : ClientAction) (s : Session ℚ) :
      Step s ((action.carryOut a).run.run s).2
  | pass (d : ℚ) (forward : 0 ≤ d) (s : Session ℚ) : Step s { s with now := s.now + d }
  | script (replies : List Reply) (latencies : List ℚ) (silence : String)
      (forward : ∀ latency ∈ latencies, 0 ≤ latency) (s : Session ℚ) :
      Step s { s with replies, latencies, silence }
  | look (s : Session ℚ) : Step s { s with limiter := (s.limiter.check s.now).2 }

theorem Step.inStep {maximum : Int} {window : ℚ} {s s' : Session ℚ} (step : Step s s')
    (h : s.InStep maximum window) : s'.InStep maximum window := by
  cases step with
  | operate a action => exact (lasting maximum window).carryOut a action s h
  | pass d forward =>
    exact ⟨h.maximum, h.window, h.paced.later (le_add_of_nonneg_right forward), h.forward⟩
  | script replies latencies silence forward => exact ⟨h.maximum, h.window, h.paced, forward⟩
  | look => exact ⟨h.maximum, h.window, h.paced.prune, h.forward⟩

theorem reach_inStep {maximum : Int} {window : ℚ} {s s' : Session ℚ}
    (run : Relation.ReflTransGen Step s s') (h : s.InStep maximum window) :
    s'.InStep maximum window := by
  induction run with
  | refl => exact h
  | tail _ step ih => exact step.inStep ih

/-- However a session goes on, requests that are a maximum apart have a full window between them,
and no window holds more requests than the maximum. -/
theorem reach_spaced {s s' : Session ℚ} (fresh : s.Fresh) (roomy : 1 ≤ s.limiter.maximum)
    (lasting : 0 < s.limiter.window) (run : Relation.ReflTransGen Step s s') :
    Spaced s.limiter.maximum.toNat s.limiter.window s'.instants ∧
      ∀ start, (inWindow start s.limiter.window s'.instants).length ≤ s.limiter.maximum.toNat := by
  have h := reach_inStep run (fresh.inStep roomy lasting)
  have spaced := h.paced.spaced
  rw [h.maximum, h.window] at spaced
  exact ⟨spaced, spaced.count_le h.paced.sorted (by omega)⟩

end Session

end Spelled

namespace Session

/-- Two lookups a quarter of a second apart, one of them allowed in a second: the other waits. -/
theorem reach_spaced_waiting :
    Spaced 1 1 [5, 6] ∧ ∀ start, (inWindow start 1 [5, 6]).length ≤ 1 := by
  let _ : Duration ℚ := ⟨fun _ => ""⟩
  let start : Session ℚ := { now := 5, limiter := ⟨1, 1, []⟩ }
  let lookup : Operation ℚ Unit :=
    (ClientAction.getRecord "Tasks" "rec1" none).carryOut ⟨"token", some "base", .int 30⟩
  have first : Step start (lookup.run.run start).2 := .operate _ _ _
  have pause := Step.pass (1 / 4) (by norm_num) (lookup.run.run start).2
  have second := Step.operate ⟨"token", some "base", .int 30⟩ (.getRecord "Tasks" "rec1" none)
    { (lookup.run.run start).2 with now := (lookup.run.run start).2.now + 1 / 4 }
  have spaced := reach_spaced (s := start) ⟨rfl, rfl, List.forall_mem_nil _⟩ (le_refl 1)
    (by decide : (0 : ℚ) < 1) (((Relation.ReflTransGen.single first).tail pause).tail second)
  have instants :
      instants (lookup.run.run
        { (lookup.run.run start).2 with now := (lookup.run.run start).2.now + 1 / 4 }).2 =
          [5, 6] := by
    decide +kernel
  rw [instants] at spaced
  exact spaced

end Session

end BaseGateway
