import Mathlib.Data.Rat.Defs
import BaseGateway.Proofs.Intake.Restoring
import BaseGateway.Proofs.Server.Calling
import BaseGateway.Proofs.Server.Permission
import BaseGateway.Proofs.Server.Secrecy

/-!
# What a call may do to the service

Whatever the arguments of a call, the state of the server and the replies of the service are, the
call sends only what its account may send, changes something with one request at most, and shows no
more records than were asked for (`Server.call_bounded`).

* a number of records that is given in the call reaches the handler (`Tool.arguments_givesCount`);
* the account is that of the client, or the one that the client is set up with
  (`Serving.client_run`);
* around the handler nothing is sent (`Server.status_keeps`, `Server.run_performs`).
-/

namespace BaseGateway

namespace Tool

variable {ps : List Parameter} {given all : Entries}

theorem value_ok {p : Parameter} {entry : Value × Value}
    (h : Parameter.value p given = .ok entry) :
    entry.1 = .text p.name ∧ (Entries.get? given p.name).or p.default? = some entry.2 := by
  unfold Parameter.value at h
  split at h
  · next v found =>
    obtain rfl := Except.ok.inj h
    exact ⟨rfl, found⟩
  · cases h

/-- What no parameter is named is not among the arguments. -/
theorem get?_values_other
    (values : List.Forall₂ (fun p entry => Parameter.value p given = .ok entry) ps all)
    {key : String} (other : key ∉ ps.map Parameter.name) :
    Entries.get? (all.filter fun entry => !entry.2.isNull) key = none := by
  induction values with
  | nil => rfl
  | @cons p entry ps all first _ ih =>
    obtain ⟨name, v⟩ := entry
    obtain ⟨rfl, -⟩ := value_ok first
    rw [List.map_cons, List.mem_cons, not_or] at other
    have rest := ih other.2
    rw [List.filter_cons]
    split
    · rw [Entries.get?_cons, if_neg (by simpa using Ne.symm other.1), rest]
    · exact rest

/-- An argument that is given and not null is among the arguments. -/
theorem get?_values
    (values : List.Forall₂ (fun p entry => Parameter.value p given = .ok entry) ps all)
    {key : String} (named : key ∈ ps.map Parameter.name) {v : Value}
    (asked : Entries.get? given key = some v) (solid : v.isNull = false) :
    Entries.get? (all.filter fun entry => !entry.2.isNull) key = some v := by
  induction values with
  | nil => cases named
  | @cons p entry ps all first _ ih =>
    obtain ⟨name, w⟩ := entry
    obtain ⟨rfl, value⟩ := value_ok first
    rw [List.filter_cons]
    by_cases same : p.name = key
    · rw [same, asked, Option.some_or] at value
      obtain rfl := Option.some.inj value
      rw [if_pos (by simp [solid]), Entries.get?_cons, if_pos (by simp [same])]
    · have rest := ih ((List.mem_cons.mp named).resolve_left (Ne.symm same))
      split
      · rw [Entries.get?_cons, if_neg (by simpa using same), rest]
      · exact rest

/-- A number of records that is given in a call is given to the handler. -/
theorem arguments_givesCount {t : Tool} {args : Entries} (taken : t.arguments given = .ok args)
    (takes : t.TakesCount) {v : Value} (asked : Entries.get? given "max_records" = some v)
    (solid : v.isNull = false) : GivesCount (.dictionary args) v := by
  have camel : "maxRecords" ∉ t.parameters.map Parameter.name := by
    cases t <;> decide
  unfold arguments at taken
  dsimp only at taken
  split at taken
  · cases taken
  · obtain ⟨all, each, taken⟩ := Except.bind_ok taken
    obtain rfl := Except.ok.inj taken
    have values := Except.mapM_forall₂ each
    have none := get?_values_other values camel
    have some := get?_values values takes asked solid
    refine ⟨_, "max_records", rfl, ?_, solid⟩
    unfold Label.find? Label.maxRecords
    dsimp only
    rw [none, some]
    rfl

end Tool

variable {τ : Type}

/-- The account that the server calls the service with: that of the client, or of the client that
the connection in force is set up with. -/
def Server.account? [OfNat τ 1] (s : Server τ) : Option Account :=
  match s.client with
  | some (account, _) => some account
  | none =>
    match Connection.inForce s.environment s.settings with
    | .ok c => some (c.client (τ := τ)).1
    | .error _ => none

namespace Serving

/-- Setting up the client writes to the journal at most besides. -/
theorem client_run [OfNat τ 1] (s : Server τ) : ∃ outcome journal client,
    (Serving.client : Serving τ (Account × Memory τ)).run.run s =
      (outcome, { s with journal, client }) ∧
    ∀ known, outcome = .ok known → known.1 ∈ s.account? := by
  obtain ⟨world, environment, settings, audit, _ | known⟩ := s
  · obtain ⟨journal, loaded⟩ := Connection.load_run settings world.journal
    unfold Serving.client Server.account?
    rw [run_bind, run_get]
    dsimp only
    have connected :=
      connection_run (s := ⟨world, environment, settings, audit, none⟩) (loaded environment)
    rw [run_bind, connected]
    cases Connection.inForce environment settings with
    | error f =>
      dsimp only [Except.orFault, Except.mapError]
      exact ⟨_, journal, none, rfl, fun _ same => by cases same⟩
    | ok c =>
      dsimp only [Except.orFault, Except.mapError]
      rw [run_bind, Server.run_ofFault]
      rcases c.verdict with f | summary | reason
      · exact ⟨_, journal, none, rfl, fun _ same => by cases same⟩
      · refine ⟨_, journal, some c.client, rfl, fun known same => ?_⟩
        obtain rfl := Except.ok.inj same
        rfl
      · exact ⟨_, journal, none, rfl, fun _ same => by cases same⟩
  · refine ⟨.ok known, world.journal, some known, rfl, fun other same => ?_⟩
    obtain rfl := Except.ok.inj same
    rfl

variable {sent : List (τ × Call)} {α : Type}

theorem ofFault_keeps {I : Server τ → Prop} (x : Except Fault α) :
    Keeps I (ofFault x : Serving τ α) := fun _ held => held

theorem note_keeps (level : Level) (message : String) :
    Keeps (fun s => s.sent = sent) (note level message : Serving τ Unit) := fun _ held => held

theorem connection_keeps :
    Keeps (fun s => s.sent = sent) (connection : Serving τ Connection) :=
  Keeps.get.bind fun _ => fun _ held => held

/-- An operation that is carried out sends its calls. -/
theorem operate_sends {I : SchemaCache Schema → Prop} {P : Call → Prop} {n : Nat} {Q : α → Prop}
    {x : Operation τ α} (h : Sends I P n Q x) (account : Account) (memory : Memory τ)
    (held : I memory.cache) (s : Server τ) :
    (∃ calls, ((operate account memory x).run.run s).2.outgoing = s.outgoing ++ calls ∧
      Within P n calls) ∧ ∀ a, ((operate account memory x).run.run s).1 = .ok a → Q a := by
  obtain ⟨-, sent, given⟩ := h { toSurroundings := s.toSurroundings, toMemory := memory } held
  exact ⟨sent, given⟩

end Serving

namespace Server

variable {sent : List (τ × Call)}

theorem limiterStatus_keeps [Sub τ] [LT τ] [DecidableLT τ] :
    Keeps (fun s => s.sent = sent) (limiterStatus : Serving τ (Option Value)) := by
  intro s held
  unfold limiterStatus
  rw [run_bind, run_get]
  dsimp only
  split
  · exact held
  · rw [run_bind, run_set]
    exact Keeps.bind (I := fun s : Server τ => s.sent = sent) (Serving.ofFault_keeps _)
      (fun _ => .pure _) _ held

theorem status_keeps [Sub τ] [LT τ] [DecidableLT τ] :
    Keeps (fun s => s.sent = sent) (status : Serving τ Value) := by
  unfold status
  refine Serving.connection_keeps.bind fun c => (Serving.ofFault_keeps _).bind fun verdict => ?_
  refine (Serving.ofFault_keeps _).bind fun base => limiterStatus_keeps.bind fun limiter => ?_
  refine Keeps.get.bind fun s => ?_
  dsimp only
  split
  · exact .pure _
  · exact (Serving.ofFault_keeps _).bind fun _ => .pure _

theorem noteCall_keeps (t : Tool) (args : Value) (success : Bool) (code : Option String) :
    Keeps (fun s => s.sent = sent) (noteCall t args success code : Serving τ Unit) := by
  unfold noteCall
  refine Keeps.get.bind fun s => (Serving.ofFault_keeps _).bind fun log => ?_
  have logged : Keeps (fun s => s.sent = sent)
      (modify fun s => { s with audit := log } : Serving τ Unit) := .modify fun _ held => held
  refine logged.bind fun _ => ?_
  split
  · exact Serving.note_keeps _ _
  · exact .pure _

variable [Add τ] [Sub τ] [OfNat τ 0] [OfNat τ 1] [LT τ] [DecidableLT τ] [Duration τ]

/-- What a tool does is within the bounds of its handler. -/
theorem perform_bounded (t : Tool) (args : Value) (s : Server τ) :
    (∃ calls, ((perform t args).run.run s).2.outgoing = s.outgoing ++ calls ∧
      Within (fun c => ∃ a ∈ s.account?, a.MaySend c) 1 calls) ∧
    ∀ v, ((perform t args).run.run s).1 = .ok v → t.Bounded args v := by
  have idle (s' : Server τ) (same : s'.sent = s.sent) : ∃ calls, s'.outgoing = s.outgoing ++ calls ∧
      Within (fun c => ∃ a ∈ s.account?, a.MaySend c) 1 calls :=
    ⟨[], by simp [Surroundings.outgoing, same], .nil⟩
  unfold perform
  by_cases asksStatus : t = .getServerStatus
  · subst asksStatus
    rw [if_pos rfl]
    exact ⟨idle _ (status_keeps s rfl), fun _ _ takes => absurd takes (by decide)⟩
  · rw [if_neg asksStatus]
    unfold handle
    obtain ⟨outcome, journal, client, ran, account⟩ := Serving.client_run s
    rw [run_bind, ran]
    rcases outcome with e | ⟨a, memory⟩
    · exact ⟨idle _ rfl, fun _ same => by cases same⟩
    · dsimp only
      rw [run_bind, run_get]
      dsimp only
      cases handler : (t.handler? s.settings a args : Option (Operation τ Value)) with
      | none => cases t <;> first | exact absurd rfl asksStatus | cases handler
      | some operation =>
        obtain ⟨⟨calls, out, within⟩, bounded⟩ := Serving.operate_sends
          (t.handler?_bounded s.settings a args handler) a memory trivial
          { s with journal, client }
        have allowed (c : Call) (mem : c ∈ calls) : ∃ a ∈ s.account?, a.MaySend c :=
          ⟨a, account _ rfl, within.each c mem⟩
        exact ⟨⟨calls, out, allowed, within.few⟩, bounded⟩

/-- Around what a tool does nothing is sent, and a text shows what it gave. -/
theorem run_performs (t : Tool) (args : Value) (s : Server τ) :
    ((run t args).run.run s).2.sent = ((perform t args).run.run s).2.sent ∧
    ∀ shown, ((run t args).run.run s).1 = .ok (.text shown) →
      ∃ v, ((perform t args).run.run s).1 = .ok v ∧ documentText v = .ok shown := by
  unfold run
  rw [run_bind, run_observing]
  dsimp only
  rcases (perform t args).run.run s with ⟨e | v, s₁⟩
  · dsimp only
    constructor
    · refine Keeps.bind (I := fun s : Server τ => s.sent = s₁.sent) (Serving.note_keeps _ _)
        (fun _ => (noteCall_keeps t args _ _).bind fun _ => ?_) s₁ rfl
      exact (Serving.ofFault_keeps _).bind fun _ => .pure _
    · intro shown same
      obtain ⟨_, s₂, -, same⟩ := run_bind_ok (Prod.ext same rfl)
      obtain ⟨_, s₃, -, same⟩ := run_bind_ok same
      obtain ⟨report, s₄, -, same⟩ := run_bind_ok same
      cases same
  · dsimp only
    constructor
    · refine Keeps.bind (I := fun s : Server τ => s.sent = s₁.sent) (noteCall_keeps t args _ _)
        (fun _ => ?_) s₁ rfl
      exact (Serving.ofFault_keeps _).bind fun _ => .pure _
    · intro shown same
      obtain ⟨_, s₂, -, same⟩ := run_bind_ok (Prod.ext same rfl)
      obtain ⟨text, s₃, written, same⟩ := run_bind_ok same
      rw [run_ofFault] at written
      cases same
      exact ⟨v, rfl, orFault_eq_ok.mp (Prod.mk.inj written).1⟩

/-- What a tool gives is shown as a text. -/
theorem run_shows {s : Server τ} (sound : s.IsSound) (t : Tool) {args : Value} (json : args.IsJson)
    (performs : ((perform t args).run.run s).1.isOk = true) :
    ∃ shown, ((run t args).run.run s).1 = .ok (.text shown) := by
  obtain ⟨-, given⟩ := perform_gives sound.entries t json s ⟨rfl, sound.client⟩
  rcases performed : (perform t args).run.run s with ⟨e | v, s₁⟩
  · rw [performed] at performs
    cases performs
  · rw [performed] at given
    obtain ⟨hash, journal, ran⟩ := run_gave json performed (Json.document_ok (.page true) given)
    exact ⟨_, congrArg Prod.fst ran⟩

/-- Whatever a tool is called with, whatever the state of the server is and whatever the service
replies: the call sends only what its account may send, changes something with one request at most,
and if it is given a number of records, its text shows no more records than that. -/
theorem call_bounded (t : Tool) (given : Entries) (s : Server τ) :
    (∃ calls, ((call t given).run.run s).2.outgoing = s.outgoing ++ calls ∧
      calls.countP Call.isWrite ≤ 1 ∧ ∀ c ∈ calls, ∃ a ∈ s.account?, a.MaySend c) ∧
    ∀ shown v, ((call t given).run.run s).1 = .ok (.text shown) → t.TakesCount →
      Entries.get? given "max_records" = some v → v.isNull = false →
      ∃ n result records, Intake.recordCount v = .valid n ∧ (1 ≤ n ∧ n ≤ 1000) ∧
        documentText result = .ok shown ∧ result.Shows records ∧ (records.length : Int) ≤ n := by
  cases taken : t.arguments given with
  | error f =>
    unfold call
    rw [run_bind, run_ofFault, taken]
    refine ⟨⟨[], (List.append_nil _).symm, Nat.zero_le 1, List.forall_mem_nil _⟩, ?_⟩
    intro shown v same
    cases same
  | ok args =>
    rw [call_run taken]
    obtain ⟨⟨calls, out, within⟩, bounded⟩ := perform_bounded t (.dictionary args) s
    obtain ⟨sent, gave⟩ := run_performs t (.dictionary args) s
    have outgoing : ((run t (.dictionary args)).run.run s).2.outgoing = s.outgoing ++ calls := by
      unfold Surroundings.outgoing at out ⊢
      rw [sent, out]
    refine ⟨⟨calls, outgoing, within.few, within.each⟩, fun shown v same takes asked solid => ?_⟩
    obtain ⟨result, performed, written⟩ := gave shown same
    obtain ⟨n, records, read, shows', few⟩ := bounded result performed takes v
      (Tool.arguments_givesCount taken takes asked solid)
    exact ⟨n, result, records, read, Intake.recordCount_bounds v n read, written, shows', few⟩

/-- A service that sends two records although one was asked for: the text shows one at most. -/
theorem call_bounded_one :
    let _ : Duration ℚ := ⟨fun _ => ""⟩
    let two := "\x7b\"records\": [\x7b\"id\": \"recABCDEFGHIJKLMN\"\x7d, " ++
      "\x7b\"id\": \"recNMLKJIHGFEDCBA\"\x7d]\x7d"
    let s : Server ℚ :=
      { now := 0, settings := ⟨"settings.json", .missing⟩, replies := [.answer 200 two]
        client := some (.based, { limiter := { maximum := 5, window := 1 } }) }
    let given : Entries := [(.text "table", .text "Tasks"), (.text "max_records", .int 1),
      (.text "exclude_attachments", .bool false)]
    ∃ shown result records, ((call .listRecords given).run.run s).1 = .ok (.text shown) ∧
      documentText result = .ok shown ∧ result.Shows records ∧ (records.length : Int) ≤ 1 := by
  intro _ two s given
  have json : (Value.dictionary given).IsJson :=
    ⟨⟨_, rfl⟩, trivial, ⟨_, rfl⟩, Value.isJson_count (n := 1) (by decide), ⟨_, rfl⟩, trivial,
      trivial⟩
  have sound : s.IsSound := by
    refine ⟨rfl, Nat.zero_le _, fun account memory same => ?_⟩
    obtain ⟨_, rfl⟩ := Prod.mk.inj (Option.some.inj same)
    exact ⟨Value.isJson_count (n := 5) (by decide), List.forall_mem_nil _⟩
  have taken : Tool.listRecords.arguments given = .ok given := rfl
  have performs : ((perform .listRecords (.dictionary given)).run.run s).1.isOk = true := by
    decide +kernel
  obtain ⟨shown, ran⟩ := run_shows sound .listRecords json performs
  rw [← call_run taken] at ran
  obtain ⟨-, limited⟩ := call_bounded .listRecords given s
  obtain ⟨n, result, records, read, -, written, shows', few⟩ :=
    limited shown (.int 1) ran (by decide) rfl rfl
  have one : n = 1 := (Checked.valid.inj read).symm
  exact ⟨shown, result, records, ran, written, shows', one ▸ few⟩

end Server

end BaseGateway
