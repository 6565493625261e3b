import Mathlib.Logic.Relation
import BaseGateway.Proofs.Client.Sending

/-!
# All requests go out, or none

The maximum of a limiter never changes. With a maximum of one or more every request goes out
(`Account.request_open`). With a maximum below one a limiter that has counted no request lets none
through, and so it never counts one (`Account.request_shut`). A client starts with a limiter that
has counted nothing, so whatever happens to a session, either all of its requests go out or none
does (`Session.reach_coherent`).
-/

namespace BaseGateway

variable {τ : Type} [Add τ] [Sub τ] [OfNat τ 0] [LT τ] [DecidableLT τ] [Duration τ]

/-- A limiter that lets no request through has counted none. -/
def Limiter.Coherent (l : Limiter τ) : Prop := l.maximum < 1 → l.times = []

omit [Duration τ] in
theorem Limiter.wait_maximum (l : Limiter τ) (now : τ) : (l.wait now).2.maximum = l.maximum := by
  unfold wait
  dsimp only
  split
  · rfl
  · split <;> rfl

omit [Duration τ] in
/-- A limiter without room that has counted nothing has nothing to wait for. -/
theorem Limiter.wait_shut {l : Limiter τ} (closed : l.maximum < 1) (none : l.times = [])
    (now : τ) : l.wait now = (.error .noSuchRequest, l) := by
  have pruned : l.prune now = l := by
    unfold prune
    rw [none, List.filter_nil, ← none]
  have full : l.hasRoom = false := by
    unfold hasRoom
    rw [none]
    exact decide_eq_false (by rw [List.length_nil]; omega)
  unfold wait
  dsimp only
  rw [pruned, full, none]
  rfl

namespace Operation

theorem throttle_maximum (s : Session τ) :
    ((throttle : Operation τ Unit).run.run s).2.limiter.maximum = s.limiter.maximum := by
  have kept := s.limiter.wait_maximum s.now
  unfold throttle
  simp only [run_bind, run_get, run_set]
  rcases waited : s.limiter.wait s.now with ⟨answer, limiter⟩
  rw [waited] at kept
  cases answer with
  | error f => exact kept
  | ok wait =>
    simp only [run_ofFault, orFault_ok]
    by_cases long : 0 < wait
    · simp only [long, if_true, run_bind, run_note, run_modify]
      exact kept
    · simp only [long, if_false, run_modify]
      exact kept

theorem throttle_shut {s : Session τ} (closed : s.limiter.maximum < 1)
    (none : s.limiter.times = []) :
    (throttle : Operation τ Unit).run.run s = (.error (.fault .noSuchRequest), s) := by
  unfold throttle
  simp only [run_bind, run_get, run_set, Limiter.wait_shut closed none]
  rfl

end Operation

namespace Account

variable (a : Account) (method path : String) (query : Query) (body : Option Value)

theorem request_maximum (s : Session τ) :
    ((a.request method path query body).run.run s).2.limiter.maximum = s.limiter.maximum := by
  have kept := Operation.throttle_maximum s
  unfold request
  rw [run_bind]
  rcases waited : (Operation.throttle : Operation τ Unit).run.run s with ⟨e | _, s'⟩
  · rw [waited] at kept
    exact kept
  · rw [waited] at kept
    simp only [run_bind, Operation.run_note, Operation.exchange_run, Operation.run_ofExcept]
    exact kept

/-- A request sends its call and reads the next reply, or fails in a limiter that lets none
through. -/
theorem request_replied {s : Session τ} {reply : Reply} {later : List Reply}
    (stored : s.replies = reply :: later) :
    (∃ s', (a.request method path query body).run.run s = (reply.document, s') ∧
      s'.outgoing = s.outgoing ++ [a.callTo method path query body] ∧
      s'.replies = later ∧ s'.limiter.maximum = s.limiter.maximum) ∨
    s.limiter.maximum < 1 ∧ ∃ limiter, (a.request method path query body).run.run s =
      (.error (.fault .noSuchRequest), { s with limiter }) := by
  have kept := a.request_maximum method path query body s
  rcases a.request_cases method path query body s with shut | asked
  · exact .inr shut
  · obtain ⟨instant, s', ran, -, sent, replies⟩ := asked
    have next : Operation.nextReply s.toSurroundings = reply := by
      unfold Operation.nextReply
      rw [stored]
      rfl
    rw [ran] at kept
    rw [next] at ran
    rw [stored] at replies
    exact .inl ⟨s', ran, by simp [Surroundings.outgoing, sent], replies, kept⟩

/-- With a limiter that lets requests through, a request sends its call and reads the next reply. -/
theorem request_open {s : Session τ} (opened : 1 ≤ s.limiter.maximum) {reply : Reply}
    {later : List Reply} (stored : s.replies = reply :: later) :
    ∃ s', (a.request method path query body).run.run s = (reply.document, s') ∧
      s'.outgoing = s.outgoing ++ [a.callTo method path query body] ∧
      s'.replies = later ∧ s'.limiter.maximum = s.limiter.maximum := by
  rcases a.request_replied method path query body stored with asked | ⟨closed, -⟩
  · exact asked
  · omega

/-- A limiter that lets nothing through and has counted nothing fails a request before anything is
done. -/
theorem request_shut {s : Session τ} (closed : s.limiter.maximum < 1)
    (none : s.limiter.times = []) :
    (a.request method path query body).run.run s = (.error (.fault .noSuchRequest), s) := by
  unfold request
  rw [run_bind, Operation.throttle_shut closed none]

/-- Requests keep a limiter coherent. -/
theorem request_coherent :
    Keeps (fun s : Session τ => s.limiter.Coherent) (a.request method path query body) := by
  intro s coherent
  by_cases closed : s.limiter.maximum < 1
  · rw [a.request_shut method path query body closed (coherent closed)]
    exact coherent
  · intro shut
    rw [a.request_maximum] at shut
    exact absurd shut closed

end Account

namespace Session

theorem coherent_lasting : Lasting (fun s : Session τ => s.limiter.Coherent) where
  request := Account.request_coherent
  journal := fun _ _ coherent => coherent
  cache := fun _ _ coherent => coherent

/-- What can happen to a session: an operation of a client, which may fail; a change of the clock or
of what the network has in store; and a look at the limiter. -/
inductive Event : Session τ → Session τ → Prop
  | operate (a : Account) (action : ClientAction) (s : Session τ) :
      Event s ((action.carryOut a).run.run s).2
  | world (now : τ) (replies : List Reply) (latencies : List τ) (silence : String)
      (s : Session τ) : Event s { s with now, replies, latencies, silence }
  | look (s : Session τ) : Event s { s with limiter := (s.limiter.check s.now).2 }

theorem Event.coherent {s s' : Session τ} (event : Event s s') (h : s.limiter.Coherent) :
    s'.limiter.Coherent := by
  cases event with
  | operate a action => exact coherent_lasting.carryOut a action s h
  | world => exact h
  | look =>
    intro closed
    have none : s.limiter.times = [] := h closed
    unfold Limiter.check Limiter.prune
    dsimp only
    rw [none, List.filter_nil]

/-- However a session with a fresh limiter goes on, its limiter stays coherent. -/
theorem reach_coherent {start s : Session τ} (fresh : start.limiter.times = [])
    (run : Relation.ReflTransGen Event start s) : s.limiter.Coherent := by
  induction run with
  | refl => exact fun _ => fresh
  | tail _ event ih => exact event.coherent ih

end Session

end BaseGateway
