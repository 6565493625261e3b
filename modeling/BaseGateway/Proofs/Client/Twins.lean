import BaseGateway.Proofs.Client.Frame
import BaseGateway.Server.Tool

/-!
# Clients that differ in their tokens

A token goes out with every call and shows nowhere else. Sessions that agree on everything but the
authorization of the calls that were sent are twins. From twins, clients that differ in their tokens
lead to twins with every operation, with the same outcome (`Session.Twins.paired`), and so does what
a tool makes of it (`Session.Twins.handler?`).
-/

namespace BaseGateway

/-- A call without its authorization. -/
def Call.bare (c : Call) : Call := { c with authorization := "" }

namespace Surroundings

variable {τ : Type}

/-- The calls that were sent with their instants, without the authorization. -/
def calls (s : Surroundings τ) : List (τ × Call) := s.sent.map fun (instant, c) => (instant, c.bare)

/-- Only the authorization of the calls that were sent may differ. -/
structure Twins (s t : Surroundings τ) : Prop where
  now : s.now = t.now
  replies : s.replies = t.replies
  latencies : s.latencies = t.latencies
  silence : s.silence = t.silence
  calls : s.calls = t.calls
  journal : s.journal = t.journal

/-- Waiting does not look at what was sent. -/
theorem await_sent [Add τ] (s : Surroundings τ) (sent : List (τ × Call)) :
    await { s with sent } = { s.await with sent } := by
  obtain ⟨now, replies, latencies, silence, _, journal⟩ := s
  cases latencies <;> rfl

theorem Twins.refl (s : Surroundings τ) : s.Twins s := ⟨rfl, rfl, rfl, rfl, rfl, rfl⟩

theorem Twins.rejournal {s t : Surroundings τ} (h : s.Twins t) (journal : Journal) :
    Twins { s with journal } { t with journal } :=
  ⟨h.now, h.replies, h.latencies, h.silence, h.calls, rfl⟩

/-- What twins are told apart by. -/
theorem Twins.exists_sent {s t : Surroundings τ} (h : s.Twins t) :
    ∃ sent, t = { s with sent } ∧ s.calls = Surroundings.calls { s with sent } := by
  obtain ⟨now, replies, latencies, silence, sent, journal⟩ := t
  obtain ⟨rfl, rfl, rfl, rfl, same, rfl⟩ := h
  exact ⟨sent, rfl, same⟩

end Surroundings

/-- Only the tokens may differ. -/
structure Account.Twins (a b : Account) : Prop where
  base : a.base = b.base
  timeout : a.timeout = b.timeout

namespace Session

variable {τ : Type}

/-- The surroundings are twins, and what the client remembers is the same. -/
structure Twins (s t : Session τ) : Prop where
  world : s.toSurroundings.Twins t.toSurroundings
  memory : s.toMemory = t.toMemory

namespace Twins

theorem exists_sent {s t : Session τ} (h : s.Twins t) :
    ∃ sent, t = { s with sent } ∧ s.calls = Surroundings.calls { s.toSurroundings with sent } := by
  obtain ⟨world, memory⟩ := t
  obtain ⟨same, rfl⟩ := h
  obtain ⟨sent, rfl, calls⟩ := same.exists_sent
  exact ⟨sent, rfl, calls⟩

/-- A change that does not look at what was sent, and leaves it as it is, leads twins to twins. -/
theorem modify {f : Session τ → Session τ}
    (blind : ∀ s sent, f { s with sent } = { f s with sent }) (keeps : ∀ s, (f s).sent = s.sent) :
    Alike Twins Eq (modify f : Operation τ Unit) (modify f) := by
  refine .modify fun s t twins => ?_
  obtain ⟨sent, rfl, same⟩ := twins.exists_sent
  rw [show f { s with sent } = { f s with sent } from blind s sent]
  refine ⟨⟨rfl, rfl, rfl, rfl, ?_, rfl⟩, rfl⟩
  unfold Surroundings.calls at same ⊢
  rw [keeps]
  exact same

theorem note (level : Level) (message : String) :
    Alike Twins Eq (Operation.note level message : Operation τ Unit)
      (Operation.note level message) :=
  modify (fun _ _ => rfl) fun _ => rfl

theorem modifyCache (f : SchemaCache Schema → SchemaCache Schema) :
    Alike Twins Eq (Operation.modifyCache f : Operation τ Unit) (Operation.modifyCache f) :=
  modify (fun _ _ => rfl) fun _ => rfl

/-- What only writes to the journal writes the same for twins. -/
theorem ofLogged {α : Type} (x : Logged α) :
    Alike Twins Eq (Operation.ofLogged x : Operation τ α) (Operation.ofLogged x) := by
  intro s t twins
  obtain ⟨sent, rfl, same⟩ := twins.exists_sent
  exact ⟨⟨⟨rfl, rfl, rfl, rfl, same, rfl⟩, rfl⟩, .refl _⟩

section

variable [Add τ]

theorem exchange {c d : Call} (same : c.bare = d.bare) :
    Alike Twins Eq (Operation.exchange c : Operation τ Reply) (Operation.exchange d) := by
  intro s t twins
  obtain ⟨sent, rfl, calls⟩ := twins.exists_sent
  rw [Operation.exchange_run, Operation.exchange_run]
  dsimp only
  rw [s.toSurroundings.await_sent sent]
  refine ⟨⟨⟨rfl, rfl, rfl, rfl, ?_, rfl⟩, rfl⟩, rfl⟩
  unfold Surroundings.calls at calls ⊢
  dsimp only at calls ⊢
  rw [List.map_append, List.map_append, calls]
  simp only [List.map_cons, List.map_nil, same]

variable [Sub τ] [OfNat τ 0] [LT τ] [DecidableLT τ] [Duration τ]

theorem throttle : Alike Twins Eq (Operation.throttle : Operation τ Unit) Operation.throttle := by
  unfold Operation.throttle
  refine Alike.get.bind fun s t twins => ?_
  obtain ⟨sent, rfl, calls⟩ := twins.exists_sent
  dsimp only
  rcases s.limiter.wait s.now with ⟨wait, limiter⟩
  refine (Alike.set ⟨⟨rfl, rfl, rfl, rfl, calls, rfl⟩, rfl⟩).seq fun _ => ?_
  refine (Alike.ofFault wait).seq fun wait => ?_
  have pass := modify (f := fun s : Session τ => { s with now := s.now + wait })
    (fun _ _ => rfl) fun _ => rfl
  have record := modify (f := fun s : Session τ => { s with limiter := s.limiter.record s.now })
    (fun _ _ => rfl) fun _ => rfl
  split
  · exact (note _ _).seq fun _ => pass.seq fun _ => record
  · exact record

/-- Clients that differ in their tokens make the same requests. -/
theorem request {a b : Account} (accounts : a.Twins b) (method path : String) (query : Query)
    (body : Option Value) :
    Alike Twins Eq (a.request method path query body : Operation τ Value)
      (b.request method path query body) := by
  unfold Account.request
  refine throttle.seq fun _ => (note _ _).seq fun _ => ?_
  refine (exchange ?_).seq fun reply => .ofExcept _
  simp only [Call.bare, accounts.timeout]

theorem paired {a b : Account} (accounts : a.Twins b) :
    Paired (Twins (τ := τ)) a b where
  base := accounts.base
  request := request accounts
  replies := fun _ _ twins => twins.world.replies
  cache := fun _ _ twins => congrArg Memory.cache twins.memory
  note := note
  fetchTables := .fetchTables (request accounts) modifyCache
  basic := fun base table s t twins _ => by
    obtain ⟨sent, rfl, calls⟩ := twins.exists_sent
    exact ⟨⟨rfl, rfl, rfl, rfl, calls, rfl⟩, rfl⟩

/-- What a tool does with its arguments is the same for clients that differ in their tokens. -/
theorem handler? {a b : Account} (accounts : a.Twins b) (t : Tool) (settings : SettingsFile)
    (args : Value) :
    Option.Rel (Alike (Twins (τ := τ)) Eq) (t.handler? settings a args)
      (t.handler? settings b args) := by
  have h : Paired (Twins (τ := τ)) a b := paired accounts
  have select (target : Target) (formula : Formula) (extent : Extent)
      (sort : Option (List SortField)) : Alike (Twins (τ := τ)) Eq
        (Handler.select a target formula extent sort)
        (Handler.select b target formula extent sort) :=
    h.listRecords _ _ _
  cases t with
  | listBases => exact .some (h.listBases.seq fun _ => .ofFault _)
  | listTables =>
    exact .some ((Alike.ofExcept _).seq fun _ =>
      (h.listTables fun _ _ => modifyCache _).seq fun _ => .ofFault _)
  | getTableSchema =>
    exact .some ((Alike.ofExcept _).seq fun _ =>
      (h.tableSchema fun _ _ _ => modifyCache _).seq fun _ => .pure rfl)
  | listRecords =>
    exact .some ((Alike.ofExcept _).seq fun _ => (ofLogged _).seq fun _ =>
      (h.listRecords _ _ _).seq fun _ => .pure rfl)
  | getRecord => exact .some ((Alike.ofExcept _).seq fun _ => h.getRecord _ _ _)
  | createRecord =>
    exact .some ((Alike.ofExcept _).seq fun _ => h.createRecordBy (fun _ _ => h.converted _ _) _)
  | updateRecord => exact .some (.throw _)
  | deleteRecord =>
    exact .some ((Alike.ofExcept _).seq fun _ => (h.deleteRecord _ _ _).seq fun _ => .pure rfl)
  | setTableSchema =>
    exact .some ((Alike.ofExcept _).seq fun _ =>
      (h.setTableSchema fun _ _ _ _ => modifyCache _).seq fun _ => .pure rfl)
  | queryByAgeRange =>
    exact .some ((Alike.ofExcept _).seq fun _ => (ofLogged _).seq fun _ =>
      (select _ _ _ _).seq fun _ => .ofFault _)
  | queryMultipleSelect =>
    exact .some ((Alike.ofExcept _).seq fun _ => (ofLogged _).seq fun _ =>
      (select _ _ _ _).seq fun _ => .ofFault _)
  | smartQuery =>
    exact .some ((Alike.ofExcept _).seq fun _ => (ofLogged _).seq fun _ =>
      (select _ _ _ _).seq fun _ => .ofFault _)
  | batchCreateRecords =>
    exact .some ((Alike.ofExcept _).seq fun _ =>
      (h.createRecordsBy (fun _ _ => h.converted _ _) _).seq fun _ => .ofFault _)
  | batchUpdateRecords =>
    exact .some ((Alike.ofExcept _).seq fun _ =>
      (h.updateRecordsBy (fun _ _ => h.converted _ _) _).seq fun _ => .ofFault _)
  | batchDeleteRecords =>
    exact .some ((Alike.ofExcept _).seq fun _ => (h.deleteRecords _ _ _).seq fun _ => .ofFault _)
  | getServerStatus => exact .none

end

end Twins

end Session

end BaseGateway
