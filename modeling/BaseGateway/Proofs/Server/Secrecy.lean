import BaseGateway.Proofs.Client.Twins
import BaseGateway.Proofs.Settings.InForce
import BaseGateway.Server.Start

/-!
# The token shows nowhere

Two runs of the server that differ in the token alone show the same: the same outcomes, journal and
audit trail, and the same calls apart from their authorization
(`Server.follow_independent_of_token`). All that a token is looked at for is its form, so the form
has to be judged alike in both runs.

* a connection is the same up to its token (`Connection.ofSettings_twins`);
* whatever happens to twins leads to twins, and is the same to see (`Server.Event.Twins.react`).
-/

namespace BaseGateway

/-- Only the token may differ. -/
def Environment.Twins (env other : Environment) : Prop :=
  ∀ name, name ≠ "AIRTABLE_PAT" → env.get? name = other.get? name

namespace Connection

/-- The connection in force, told without the journal. -/
def inForce (env : Environment) (file : SettingsFile) : Except Fault Connection := do
  ofSettings env (← Settings.inForce file)

/-- What the form of the token and the base is judged to be. -/
def verdictIn (env : Environment) (file : SettingsFile) : Except Fault Verdict := do
  (← inForce env file).verdict

/-- The same connection but for the token. -/
structure Twins (c d : Connection) : Prop where
  base : c.base = d.base
  timeout : c.timeout = d.timeout
  maxRequests : c.maxRequests = d.maxRequests

/-- Environments that differ in the token give connections that do, or the same fault. -/
theorem ofSettings_twins {env other : Environment} (twins : env.Twins other) (entries : Entries) :
    ofSettings other entries = (ofSettings env entries).map fun c =>
      { c with token := (other.get? "AIRTABLE_PAT").getD "" } := by
  unfold ofSettings
  dsimp only
  rw [twins "AIRTABLE_BASE_ID" (by decide), twins "AIRTABLE_TIMEOUT" (by decide)]
  rcases (((other.get? "AIRTABLE_TIMEOUT").map Value.text).getD
    (Settings.get entries "request_timeout")).asFloat with _ | timeout
  · rfl
  · rcases (Settings.get entries "max_requests_per_second").asInt with _ | maxRequests <;> rfl

theorem inForce_twins {env other : Environment} (twins : env.Twins other) (file : SettingsFile) :
    (∃ f, inForce env file = .error f ∧ inForce other file = .error f) ∨
    ∃ c d, inForce env file = .ok c ∧ inForce other file = .ok d ∧ c.Twins d := by
  unfold inForce
  cases Settings.inForce file with
  | error f => exact .inl ⟨f, rfl, rfl⟩
  | ok entries =>
    change (∃ f, ofSettings env entries = .error f ∧ ofSettings other entries = .error f) ∨
      ∃ c d, ofSettings env entries = .ok c ∧ ofSettings other entries = .ok d ∧ c.Twins d
    rw [ofSettings_twins twins]
    cases ofSettings env entries with
    | error f => exact .inl ⟨f, rfl, rfl⟩
    | ok c => exact .inr ⟨c, _, rfl, rfl, rfl, rfl, rfl⟩

/-- A token that is long enough and has the right beginning leaves the judgement to the base. -/
theorem checkForm_of_token {token : String} (form : token.startsWith "pat" = true)
    (long : 20 ≤ token.length) (base : Value) : checkForm (.text token) base = checkBase base := by
  have given : (Value.text token).isGiven = true := by
    cases empty : token.isEmpty with
    | false => simp [Value.isGiven, empty]
    | true =>
      rw [String.isEmpty_iff] at empty
      subst empty
      simp at long
  unfold checkForm startsWith
  simp only [given, form, Bool.not_true, Bool.false_eq_true, if_false, if_true]
  have short : ¬token.length < 20 := by omega
  change (if token.length < 20 then _ else checkBase base) = _
  rw [if_neg short]

/-- Of the token only the form counts. -/
theorem verdictIn_twins {env other : Environment} (envs : env.Twins other)
    (form : ∀ base, checkForm (.text ((env.get? "AIRTABLE_PAT").getD "")) base =
      checkForm (.text ((other.get? "AIRTABLE_PAT").getD "")) base) (file : SettingsFile) :
    verdictIn env file = verdictIn other file := by
  unfold verdictIn inForce
  cases Settings.inForce file with
  | error f => rfl
  | ok entries =>
    change (ofSettings env entries >>= verdict) = (ofSettings other entries >>= verdict)
    rw [ofSettings_twins envs]
    cases made : ofSettings env entries with
    | error f => rfl
    | ok c =>
      change checkForm (.text c.token) c.base = checkForm _ c.base
      have token : c.token = (env.get? "AIRTABLE_PAT").getD "" := by
        unfold ofSettings at made
        obtain ⟨timeout, -, made⟩ := Except.bind_ok made
        obtain ⟨maxRequests, -, made⟩ := Except.bind_ok made
        cases made
        rfl
      rw [token]
      exact form c.base

/-- Loading writes the same to the journal whatever the environment is. -/
theorem load_run (file : SettingsFile) (j : Journal) :
    ∃ j', ∀ env, (load env file).run.run j = (Except.orFault (inForce env file), j') := by
  obtain ⟨j', loaded⟩ := Settings.load_settled file j
  refine ⟨j', fun env => ?_⟩
  unfold load inForce
  rw [run_bind, loaded]
  cases Settings.inForce file <;> rfl

end Connection

variable {τ : Type}

/-- A client that is set up: only the token may differ. -/
structure Remembered (x y : Account × Memory τ) : Prop where
  account : x.1.Twins y.1
  memory : x.2 = y.2

/-- Twins in two environments: only the authorization of the calls that were sent and the tokens may
differ. -/
structure Server.Twins (env other : Environment) (file : SettingsFile) (s t : Server τ) : Prop where
  world : s.toSurroundings.Twins t.toSurroundings
  environment : s.environment = env ∧ t.environment = other
  settings : s.settings = file ∧ t.settings = file
  audit : s.audit = t.audit
  client : Option.Rel Remembered s.client t.client

/-- Either both have a client, or neither has. -/
theorem Server.Twins.client_cases {env other : Environment} {file : SettingsFile} {s t : Server τ}
    (twins : s.Twins env other file t) :
    (s.client = none ∧ t.client = none) ∨
      ∃ x y, s.client = some x ∧ t.client = some y ∧ Remembered x y := by
  have same := twins.client
  cases left : s.client <;> cases right : t.client <;> rw [left, right] at same <;> cases same
  · exact .inl ⟨rfl, rfl⟩
  · next remembered => exact .inr ⟨_, _, rfl, rfl, remembered⟩

namespace Serving

variable {env other : Environment} {file : SettingsFile} {α : Type}

theorem ofExcept_alike (x : Except Failure α) :
    Alike (Server.Twins env other file) Eq (ofExcept x : Serving τ α) (ofExcept x) :=
  fun _ _ twins => ⟨twins, .refl x⟩

theorem ofFault_alike (x : Except Fault α) :
    Alike (Server.Twins env other file) Eq (ofFault x : Serving τ α) (ofFault x) :=
  ofExcept_alike _

theorem note_alike (level : Level) (message : String) :
    Alike (Server.Twins env other file) Eq (note level message : Serving τ Unit)
      (note level message) := by
  refine .modify fun s t twins => ?_
  rw [twins.world.journal]
  exact ⟨twins.world.rejournal _, twins.environment, twins.settings, twins.audit, twins.client⟩

theorem connection_run {s : Server τ} {outcome : Except Failure Connection} {journal : Journal}
    (loaded : (Connection.load s.environment s.settings).run.run s.journal = (outcome, journal)) :
    (connection : Serving τ Connection).run.run s = (outcome, { s with journal }) := by
  unfold connection ofLogged
  rw [run_bind, run_get]
  dsimp only
  rw [run_bind, run_get]
  dsimp only
  rw [loaded]
  rfl

variable (envs : env.Twins other)
  (judged : Connection.verdictIn env file = Connection.verdictIn other file)
include envs judged

/-- The connections of twins are the same but for the token, and their form is judged alike. -/
theorem connection_alike :
    Alike (Server.Twins env other file) (fun c d => c.Twins d ∧ c.verdict = d.verdict)
      (connection : Serving τ Connection) connection := by
  intro s t twins
  obtain ⟨journal, loaded⟩ := Connection.load_run file s.journal
  have left : (Connection.load s.environment s.settings).run.run s.journal =
      (Except.orFault (Connection.inForce env file), journal) := by
    rw [twins.environment.1, twins.settings.1, loaded]
  have right : (Connection.load t.environment t.settings).run.run t.journal =
      (Except.orFault (Connection.inForce other file), journal) := by
    rw [twins.environment.2, twins.settings.2, ← twins.world.journal, loaded]
  rw [connection_run left, connection_run right]
  refine ⟨⟨twins.world.rejournal _, twins.environment, twins.settings, twins.audit, twins.client⟩,
    ?_⟩
  rcases Connection.inForce_twins envs file with ⟨f, one, two⟩ | ⟨c, d, one, two, same⟩
  · rw [one, two]
    exact rfl
  · unfold Connection.verdictIn at judged
    rw [one, two] at judged ⊢
    exact ⟨same, judged⟩

/-- The clients of twins differ in their tokens at most. -/
theorem client_alike [OfNat τ 1] :
    Alike (Server.Twins env other file) Remembered (Serving.client : Serving τ (Account × Memory τ))
      Serving.client := by
  unfold Serving.client
  refine Alike.get.bind fun s t twins => ?_
  rcases twins.client_cases with ⟨left, right⟩ | ⟨x, y, left, right, same⟩
  · rw [left, right]
    refine (connection_alike envs judged).bind fun c d ⟨same, form⟩ => ?_
    rw [form]
    refine (ofFault_alike d.verdict).seq fun verdict => ?_
    have remembered : Remembered (c.client (τ := τ)) d.client := by
      refine ⟨⟨?_, ?_⟩, ?_⟩
      · exact congrArg Value.asText? same.base
      · exact congrArg Value.float same.timeout
      · simp only [Connection.client, same.maxRequests]
    cases verdict with
    | rejected reason => exact .throw _
    | accepted summary =>
      refine (Alike.modify fun s t twins => ?_).seq fun _ => .pure remembered
      exact ⟨twins.world, twins.environment, twins.settings, twins.audit, .some remembered⟩
  · rw [left, right]
    exact .pure same

omit envs judged in
/-- An operation that is the same for twins is carried out by twins in the same way. -/
theorem operate_alike {x y : Account × Memory τ} (same : Remembered x y) {op op' : Operation τ α}
    (alike : Alike Session.Twins Eq op op') :
    Alike (Server.Twins env other file) Eq (operate x.1 x.2 op) (operate y.1 y.2 op') := by
  intro s t twins
  have start : Session.Twins { toSurroundings := s.toSurroundings, toMemory := x.2 }
      { toSurroundings := t.toSurroundings, toMemory := y.2 } := ⟨twins.world, same.memory⟩
  obtain ⟨last, outcome⟩ := alike _ _ start
  exact ⟨⟨last.world, twins.environment, twins.settings, twins.audit,
    .some ⟨same.account, last.memory⟩⟩, outcome⟩

end Serving

namespace Server

variable {env other : Environment} {file : SettingsFile}

theorem limiterStatus_alike [Sub τ] [LT τ] [DecidableLT τ] :
    Alike (Twins env other file) Eq (limiterStatus : Serving τ (Option Value)) limiterStatus := by
  unfold limiterStatus
  refine Alike.get.bind fun s t twins => ?_
  rcases twins.client_cases with ⟨left, right⟩ | ⟨⟨a, memory⟩, ⟨b, memory'⟩, left, right, same⟩
  · rw [left, right]
    exact .pure rfl
  · rw [left, right]
    obtain ⟨accounts, rfl⟩ : a.Twins b ∧ memory = memory' := ⟨same.account, same.memory⟩
    dsimp only
    rw [twins.world.now]
    refine (Alike.set ⟨twins.world, twins.environment, twins.settings, twins.audit,
      .some ⟨accounts, rfl⟩⟩).seq fun _ => ?_
    exact (Serving.ofFault_alike _).seq fun _ => .pure rfl

theorem noteCall_alike (t : Tool) (args : Value) (success : Bool) (code : Option String) :
    Alike (Twins env other file) Eq (noteCall t args success code : Serving τ Unit)
      (noteCall t args success code) := by
  unfold noteCall
  refine Alike.get.bind fun s s' twins => ?_
  rw [twins.audit]
  refine (Serving.ofFault_alike _).seq fun log => ?_
  have logged : Alike (Twins env other file) Eq
      (modify fun s => { s with audit := log } : Serving τ Unit)
      (modify fun s => { s with audit := log }) :=
    .modify fun _ _ twins =>
      ⟨twins.world, twins.environment, twins.settings, rfl, twins.client⟩
  refine logged.seq fun _ => ?_
  split
  · exact Serving.note_alike _ _
  · exact .pure rfl

variable (envs : env.Twins other)
  (judged : Connection.verdictIn env file = Connection.verdictIn other file)
include envs judged

theorem status_alike [Sub τ] [LT τ] [DecidableLT τ] :
    Alike (Twins env other file) Eq (status : Serving τ Value) status := by
  unfold status
  refine (Serving.connection_alike envs judged).bind fun c d ⟨same, form⟩ => ?_
  rw [form, same.base]
  refine (Serving.ofFault_alike _).seq fun verdict => (Serving.ofFault_alike _).seq fun base => ?_
  refine limiterStatus_alike.seq fun limiter => Alike.get.bind fun s t twins => ?_
  rcases twins.client_cases with ⟨left, right⟩ | ⟨⟨a, memory⟩, ⟨b, memory'⟩, left, right, both⟩
  · rw [left, right, twins.audit]
    exact .pure rfl
  · obtain rfl : memory = memory' := both.memory
    rw [left, right, twins.audit]
    exact (Serving.ofFault_alike _).seq fun _ => .pure rfl

variable [Add τ] [Sub τ] [OfNat τ 0] [OfNat τ 1] [LT τ] [DecidableLT τ] [Duration τ]

theorem perform_alike (t : Tool) (args : Value) :
    Alike (Twins env other file) Eq (perform t args : Serving τ Value) (perform t args) := by
  unfold perform
  split
  · exact status_alike envs judged
  · refine (Serving.client_alike envs judged).bind fun x y same => ?_
    refine Alike.get.bind fun s s' twins => ?_
    have handled : Option.Rel (Alike Session.Twins Eq)
        (t.handler? file x.1 args : Option (Operation τ Value)) (t.handler? file y.1 args) :=
      Session.Twins.handler? same.account t file args
    rw [twins.settings.1, twins.settings.2]
    generalize (t.handler? file x.1 args : Option (Operation τ Value)) = operation,
      (t.handler? file y.1 args : Option (Operation τ Value)) = operation' at handled ⊢
    cases handled with
    | none => exact status_alike envs judged
    | some alike => exact Serving.operate_alike same alike

/-- A call ends in the same way for twins. -/
theorem call_alike (t : Tool) (given : Entries) :
    Alike (Twins env other file) Eq (call t given : Serving τ ToolOutcome) (call t given) := by
  refine (Serving.ofFault_alike _).seq fun args => ?_
  have observed : Alike (Twins env other file) Eq
      (run.observing (perform t (.dictionary args)) : Serving τ _)
      (run.observing (perform t (.dictionary args))) := by
    intro s s' twins
    obtain ⟨kept, outcome⟩ := perform_alike envs judged t (.dictionary args) s s' twins
    exact ⟨kept, outcome.eq⟩
  refine observed.seq fun outcome => ?_
  cases outcome with
  | error f =>
    exact (Serving.note_alike _ _).seq fun _ => (noteCall_alike _ _ _ _).seq fun _ =>
      (Serving.ofFault_alike _).seq fun _ => .pure rfl
  | ok v =>
    exact (noteCall_alike _ _ _ _).seq fun _ => (Serving.ofFault_alike _).seq fun _ => .pure rfl

/-- The server starts in the same way for twins. -/
theorem start_alike :
    Alike (Twins env other file) Eq (start : Serving τ Transport) start := by
  have note : ∀ level message, Alike (Twins env other file) Eq
      (Serving.note level message : Serving τ Unit) (Serving.note level message) :=
    Serving.note_alike
  have access : Alike (Twins env other file) Eq (checkAccess : Serving τ Unit) checkAccess := by
    unfold checkAccess
    refine (Serving.client_alike envs judged).bind fun x y same => ?_
    have validated := (Session.Twins.paired (τ := τ) same.account).validateCredentials
    refine (Serving.operate_alike same validated).seq fun summary => ?_
    refine (note _ _).seq fun _ => (note _ _).seq fun _ => ?_
    rw [same.account.base]
    split <;> exact note _ _
  refine Alike.seq (.tryCatch access fun e => (note _ _).seq fun _ => .throw e) fun _ => ?_
  refine Alike.get.bind fun s t twins => ?_
  rw [twins.environment.1, twins.environment.2]
  dsimp only
  rw [envs "MCP_TRANSPORT" (by decide), envs "MCP_HOST" (by decide), envs "MCP_PORT" (by decide),
    envs "MCP_PATH" (by decide)]
  split
  · exact (Serving.ofFault_alike _).seq fun _ => (note _ _).seq fun _ => .pure rfl
  · exact (note _ _).seq fun _ => .pure rfl

end Server

namespace Server

/-- What happens to the server: a call of a tool, a start, and changes of the world around it. -/
inductive Event (τ : Type) where
  | call (t : Tool) (given : Entries)
  | start
  | pass (d : τ)
  | script (replies : List Reply) (latencies : List τ) (silence : String)
  | environment (env : Environment)
  | settings (file : SettingsFile)

/-- Only the token in an environment may differ. -/
inductive Event.Twins : Event τ → Event τ → Prop
  | same (e : Event τ) : Twins e e
  | environment {env other : Environment} (envs : env.Twins other) :
      Twins (.environment env) (.environment other)

/-- What is seen of an event. -/
inductive Sight where
  | ended (outcome : ToolOutcome)
  | listening (transport : Transport)
  | nothing

/-- The environment and the settings behind an event. -/
def Event.setup : Event τ → Environment × SettingsFile → Environment × SettingsFile
  | .environment env, (_, file) => (env, file)
  | .settings file, (env, _) => (env, file)
  | _, before => before

/-- How the form of the token and the base is judged at each point of a run. -/
def verdicts : List (Event τ) → Environment × SettingsFile → List (Except Fault Verdict)
  | [], (env, file) => [Connection.verdictIn env file]
  | e :: es, (env, file) => Connection.verdictIn env file :: verdicts es (e.setup (env, file))

variable [Add τ] [Sub τ] [OfNat τ 0] [OfNat τ 1] [LT τ] [DecidableLT τ] [Duration τ]

def react : Event τ → Serving τ Sight
  | .call t given => do return .ended (← call t given)
  | .start => do return .listening (← start)
  | .pass d => do
    modify fun s => { s with now := s.now + d }
    return .nothing
  | .script replies latencies silence => do
    modify fun s => { s with replies, latencies, silence }
    return .nothing
  | .environment environment => do
    modify fun s => { s with environment }
    return .nothing
  | .settings settings => do
    modify fun s => { s with settings }
    return .nothing

/-- What is seen in a run, and the state behind it. -/
def follow : List (Event τ) → Server τ → List (Except Failure Sight) × Server τ
  | [], s => ([], s)
  | e :: es, s =>
    let (sight, s') := (react e).run.run s
    let (sights, last) := follow es s'
    (sight :: sights, last)

theorem follow_cons (e : Event τ) (es : List (Event τ)) (s : Server τ) :
    follow (e :: es) s = (((react e).run.run s).1 :: (follow es ((react e).run.run s).2).1,
      (follow es ((react e).run.run s).2).2) := rfl

/-- What happens to twins leads to twins, and is the same to see. -/
theorem Event.Twins.react {e f : Event τ} (event : e.Twins f) {env other : Environment}
    {file : SettingsFile} (envs : env.Twins other)
    (judged : Connection.verdictIn env file = Connection.verdictIn other file) {s t : Server τ}
    (twins : s.Twins env other file t) :
    ∃ env' other' file', e.setup (env, file) = (env', file') ∧
      f.setup (other, file) = (other', file') ∧ env'.Twins other' ∧
      Server.Twins env' other' file' ((react e).run.run s).2 ((react f).run.run t).2 ∧
      ((react e).run.run s).1 = ((react f).run.run t).1 := by
  -- Events that leave the environment and the settings as they are.
  have within (e : Event τ) (kept : ∀ before, e.setup before = before)
      (alike : Alike (Server.Twins env other file) Eq (Server.react e) (Server.react e)) :
      ∃ env' other' file', e.setup (env, file) = (env', file') ∧
        e.setup (other, file) = (other', file') ∧ env'.Twins other' ∧
        Server.Twins env' other' file' ((Server.react e).run.run s).2
          ((Server.react e).run.run t).2 ∧
        ((Server.react e).run.run s).1 = ((Server.react e).run.run t).1 := by
    obtain ⟨last, outcome⟩ := alike s t twins
    exact ⟨env, other, file, kept _, kept _, envs, last, outcome.eq⟩
  cases event with
  | @environment new new' news =>
    exact ⟨new, new', file, rfl, rfl, news,
      ⟨twins.world, ⟨rfl, rfl⟩, twins.settings, twins.audit, twins.client⟩, rfl⟩
  | same =>
    cases e with
    | environment new =>
      exact ⟨new, new, file, rfl, rfl, fun _ _ => rfl,
        ⟨twins.world, ⟨rfl, rfl⟩, twins.settings, twins.audit, twins.client⟩, rfl⟩
    | settings new =>
      exact ⟨env, other, new, rfl, rfl, envs,
        ⟨twins.world, twins.environment, ⟨rfl, rfl⟩, twins.audit, twins.client⟩, rfl⟩
    | call t given =>
      exact within (.call t given) (fun _ => rfl)
        ((call_alike envs judged t given).seq fun _ => .pure rfl)
    | start =>
      exact within .start (fun _ => rfl) ((start_alike envs judged).seq fun _ => .pure rfl)
    | pass d =>
      refine within (.pass d) (fun _ => rfl)
        ((Alike.modify fun s t twins => ?_).seq fun _ => .pure rfl)
      have world := twins.world
      have later := congrArg (· + d) world.now
      exact ⟨⟨later, world.replies, world.latencies, world.silence, world.calls, world.journal⟩,
        twins.environment, twins.settings, twins.audit, twins.client⟩
    | script replies latencies silence =>
      refine within (.script replies latencies silence) (fun _ => rfl)
        ((Alike.modify fun s t twins => ?_).seq fun _ => .pure rfl)
      have world := twins.world
      exact ⟨⟨world.now, rfl, rfl, rfl, world.calls, world.journal⟩, twins.environment,
        twins.settings, twins.audit, twins.client⟩

/-- A run of twins shows the same and ends with twins. -/
theorem follow_twins {es fs : List (Event τ)} (events : List.Forall₂ Event.Twins es fs)
    {env other : Environment} {file : SettingsFile} {s t : Server τ} (envs : env.Twins other)
    (judged : verdicts es (env, file) = verdicts fs (other, file))
    (twins : s.Twins env other file t) :
    (follow es s).1 = (follow fs t).1 ∧
      ∃ env other file, Twins env other file (follow es s).2 (follow fs t).2 := by
  induction events generalizing env other file s t with
  | nil => exact ⟨rfl, env, other, file, twins⟩
  | cons event _ ih =>
    obtain ⟨now, later⟩ := List.cons_eq_cons.mp judged
    obtain ⟨env', other', file', left, right, envs', twins', sight⟩ := event.react envs now twins
    rw [left, right] at later
    obtain ⟨sights, last⟩ := ih envs' later twins'
    rw [follow_cons, follow_cons, sight, sights]
    exact ⟨rfl, last⟩

/-- Two runs that differ in the token alone show the same: the outcome of every event, the journal,
the audit trail and the calls apart from their authorization, as long as the form of the token and
the base is judged alike at each point. -/
theorem follow_independent_of_token (s : Server τ) {other : Environment}
    (envs : s.environment.Twins other) {es fs : List (Event τ)}
    (events : List.Forall₂ Event.Twins es fs)
    (judged : verdicts es (s.environment, s.settings) = verdicts fs (other, s.settings)) :
    let run := follow es s
    let run' := follow fs { s with environment := other }
    run.1 = run'.1 ∧ run.2.journal = run'.2.journal ∧ run.2.audit = run'.2.audit ∧
      run.2.calls = run'.2.calls := by
  have client : Option.Rel Remembered s.client s.client := by
    cases s.client with
    | none => exact .none
    | some known => exact .some ⟨⟨rfl, rfl⟩, rfl⟩
  have twins : s.Twins s.environment other s.settings { s with environment := other } :=
    ⟨.refl _, ⟨rfl, rfl⟩, ⟨rfl, rfl⟩, rfl, client⟩
  obtain ⟨sights, _, _, _, last⟩ := follow_twins events envs judged twins
  exact ⟨sights, last.world.journal, last.audit, last.world.calls⟩

/-- A start, a listing, and a renewed token before the status is asked for: with other tokens all of
it looks the same. -/
theorem follow_independent_of_token_renewed :
    let env (token : String) : Environment :=
      [("AIRTABLE_PAT", token), ("AIRTABLE_BASE_ID", "appABCDEFGHIJKLMN")]
    let events (token : String) : List (Event Float) :=
      [.start, .call .listTables [], .environment (env token), .call .getServerStatus []]
    let fresh : Server Float :=
      { now := 1000, replies := [.answer 200 ""], settings := ⟨"settings.json", .missing⟩
        environment := env "patABCDEFGHIJKLMN.first" }
    let run := follow (events "patABCDEFGHIJKLMN.renewed") fresh
    let run' := follow (events "patZYXWVUTSRQPONM.renewed")
      { fresh with environment := env "patZYXWVUTSRQPONM.first" }
    run.1 = run'.1 ∧ run.2.journal = run'.2.journal ∧ run.2.audit = run'.2.audit ∧
      run.2.calls = run'.2.calls := by
  intro env events fresh
  have envs (one two : String) : (env one).Twins (env two) := by
    intro name other
    have skipped : ("AIRTABLE_PAT" == name) = false := by simpa using Ne.symm other
    simp [env, Environment.get?, List.find?_cons, skipped]
  have judged (one two : String) (first : one.startsWith "pat" = true)
      (second : two.startsWith "pat" = true) (long : 20 ≤ one.length) (long' : 20 ≤ two.length) :
      Connection.verdictIn (env one) ⟨"settings.json", .missing⟩ =
        Connection.verdictIn (env two) ⟨"settings.json", .missing⟩ := by
    refine Connection.verdictIn_twins (envs one two) (fun base => ?_) _
    change Connection.checkForm (.text one) base = Connection.checkForm (.text two) base
    rw [Connection.checkForm_of_token first long, Connection.checkForm_of_token second long']
  have before := judged "patABCDEFGHIJKLMN.first" "patZYXWVUTSRQPONM.first"
    (by decide +kernel) (by decide +kernel) (by decide) (by decide)
  have behind := judged "patABCDEFGHIJKLMN.renewed" "patZYXWVUTSRQPONM.renewed"
    (by decide +kernel) (by decide +kernel) (by decide) (by decide)
  have alike : List.Forall₂ Event.Twins (events "patABCDEFGHIJKLMN.renewed")
      (events "patZYXWVUTSRQPONM.renewed") :=
    .cons (.same _) (.cons (.same _) (.cons (.environment (envs _ _)) (.cons (.same _) .nil)))
  have points : verdicts (events "patABCDEFGHIJKLMN.renewed") (fresh.environment, fresh.settings) =
      verdicts (events "patZYXWVUTSRQPONM.renewed")
        (env "patZYXWVUTSRQPONM.first", fresh.settings) := by
    simp only [events, fresh, verdicts, Event.setup, before, behind]
  exact follow_independent_of_token fresh (envs _ _) alike points

end Server

end BaseGateway
