import Mathlib.Logic.Relation
import BaseGateway.Proofs.Audit
import BaseGateway.Proofs.Report
import BaseGateway.Proofs.Server.Arguments
import BaseGateway.Proofs.Server.Serving

/-!
# Every call ends in one of two ways

Whatever was called before and whatever the network, the environment and the settings are, a call
of a tool with JSON arguments ends with a text or with a report that is a JSON object with a message
and a code, and it leaves exactly one entry in the audit trail, which tells how it ended
(`Server.reach_call_audited_once`).

* what a tool does leaves the audit trail alone (`perform_gives`);
* the hashing of the arguments and the writing of the outcome, which stand outside the tool, cannot
  fail (`noteCall_run`, `run_ends`);
* so every state that the server reaches is sound (`reach_isSound`).
-/

namespace BaseGateway

open Value

/-- An entry of the audit trail tells how a call ended: with a text, or with a report whose code it
has. -/
def AuditEntry.Tells (entry : AuditEntry) : ToolOutcome → Prop
  | .text _ => entry.success = true ∧ entry.errorCode = none
  | .failed report =>
    entry.success = false ∧ ∃ code, IsReport report code ∧ entry.errorCode = some code

namespace AuditLog

theorem trim_eq (entries : List AuditEntry) :
    trim 1000 entries = entries.drop (entries.length - 1000) := by
  have kept := trim_eq_recent 1000 entries
  rw [recent, if_neg (by decide)] at kept
  exact kept

/-- The trail keeps its last thousand entries. -/
theorem push_entries {log : AuditLog} (maximum : log.maximum = 1000) (entry : AuditEntry) :
    (log.push entry).entries = (log.entries ++ [entry]).drop (log.entries.length + 1 - 1000) := by
  unfold push
  rw [maximum, trim_eq, List.length_append, List.length_singleton]

theorem push_length {log : AuditLog} (maximum : log.maximum = 1000) (entry : AuditEntry) :
    (log.push entry).entries.length ≤ 1000 := by
  rw [push_entries maximum, List.length_drop, List.length_append, List.length_singleton]
  omega

end AuditLog

namespace Server

variable {τ : Type}

theorem run_observing {α : Type} (x : Serving τ α) (s : Server τ) :
    (run.observing x).run.run s = (.ok (x.run.run s).1, (x.run.run s).2) := rfl

theorem run_ofFault {α : Type} (x : Except Fault α) (s : Server τ) :
    (Serving.ofFault x).run.run s = (Except.orFault x, s) := rfl

theorem run_note (level : Level) (message : String) (s : Server τ) :
    (Serving.note level message).run.run s =
      (.ok (), { s with journal := s.journal.write level message }) := rfl

/-- Noting a call never fails, and adds one entry. -/
theorem noteCall_run (t : Tool) {args : Value} (json : args.IsJson) (success : Bool)
    (code : Option String) (s : Server τ) : ∃ hash journal,
      (noteCall t args success code).run.run s = (.ok (),
        { s with audit := s.audit.push ⟨t.name, hash, success, code, none⟩, journal }) := by
  obtain ⟨hash, hashed⟩ := argumentsHash_ok json
  refine ⟨String.ofList (hash.toList.take 16), ?_⟩
  unfold noteCall
  cases success with
  | true =>
    refine ⟨s.journal, ?_⟩
    simp only [run_bind, run_get, run_ofFault, AuditLog.logCall, hashed]
    rfl
  | false =>
    refine ⟨s.journal.write .warning (auditWarning t.name code), ?_⟩
    simp only [run_bind, run_get, run_ofFault, AuditLog.logCall, hashed]
    rfl

/-- A server that was not called yet. -/
structure IsFresh (s : Server τ) : Prop where
  audit : s.audit = {}
  client : s.client = none

theorem IsFresh.isSound {s : Server τ} (h : s.IsFresh) : s.IsSound := by
  refine ⟨by rw [h.audit], by rw [h.audit]; exact Nat.zero_le _, fun account memory known => ?_⟩
  rw [h.client] at known
  cases known

variable [Add τ] [Sub τ] [OfNat τ 0] [OfNat τ 1] [LT τ] [DecidableLT τ] [Duration τ]

section

variable {s s₁ : Server τ} {t : Tool} {args : Value} (json : args.IsJson)
include json

/-- What a tool fails with is reported, and noted with its code. -/
theorem run_failed {e : Failure} (performed : (perform t args).run.run s = (.error e, s₁))
    {text : String} (written : documentText e.toRefusal.report.toValue = .ok text) :
    ∃ hash journal, (run t args).run.run s = (.ok (.failed text), { s₁ with
      audit := s₁.audit.push ⟨t.name, hash, false, some e.toRefusal.code, none⟩, journal }) := by
  obtain ⟨hash, journal, noted⟩ := noteCall_run t json false (some e.toRefusal.code)
    { s₁ with journal := s₁.journal.write .error
                s!"Tool {t.name} failed: {Redaction.redact e.message}" }
  refine ⟨hash, journal, ?_⟩
  unfold run
  rw [run_bind, run_observing, performed]
  dsimp only
  rw [run_bind, run_note]
  dsimp only
  rw [run_bind, noted]
  dsimp only
  rw [run_bind, run_ofFault, written]
  rfl

/-- What a tool gives is written out, and noted. -/
theorem run_gave {v : Value} (performed : (perform t args).run.run s = (.ok v, s₁))
    {text : String} (written : documentText v = .ok text) :
    ∃ hash journal, (run t args).run.run s = (.ok (.text text), { s₁ with
      audit := s₁.audit.push ⟨t.name, hash, true, none, none⟩, journal }) := by
  obtain ⟨hash, journal, noted⟩ := noteCall_run t json true none s₁
  refine ⟨hash, journal, ?_⟩
  unfold run
  rw [run_bind, run_observing, performed]
  dsimp only
  rw [run_bind, noted]
  dsimp only
  rw [run_bind, run_ofFault, written]
  rfl

end

/-- A tool that is run ends in one of two ways, and leaves one entry that tells which. -/
theorem run_ends {s : Server τ} (sound : s.IsSound) (t : Tool) {args : Value}
    (json : args.IsJson) : ∃ outcome entry s', (run t args).run.run s = (.ok outcome, s') ∧
      Working (s.audit.push entry) s' ∧ entry.tool = t.name ∧ entry.Tells outcome := by
  obtain ⟨working, given⟩ := perform_gives sound.entries t json s ⟨rfl, sound.client⟩
  rcases performed : (perform t args).run.run s with ⟨e | v, s₁⟩
  all_goals
    rw [performed] at given working
    dsimp only at given working
  · have told : e.toRefusal.IsReportable := Failure.toRefusal_isReportable given
    obtain ⟨text, written, report⟩ := Refusal.report_read (.page true) told
    obtain ⟨hash, journal, ran⟩ := run_failed json performed written
    let entry : AuditEntry := ⟨t.name, hash, false, some e.toRefusal.code, none⟩
    exact ⟨.failed text, entry, _, ran,
      ⟨congrArg (AuditLog.push · entry) working.audit, working.client⟩, rfl, rfl, _, report, rfl⟩
  · obtain ⟨hash, journal, ran⟩ := run_gave json performed (Json.document_ok (.page true) given)
    let entry : AuditEntry := ⟨t.name, hash, true, none, none⟩
    exact ⟨.text _, entry, _, ran,
      ⟨congrArg (AuditLog.push · entry) working.audit, working.client⟩, rfl, rfl, rfl⟩

/-- A call runs the tool where the arguments are ones that it takes. -/
theorem call_run {t : Tool} {given args : Entries} (taken : t.arguments given = .ok args)
    (s : Server τ) : (call t given).run.run s = (run t (.dictionary args)).run.run s := by
  unfold call
  rw [run_bind, run_ofFault, taken]
  rfl

/-- A call with arguments that the tool takes ends in one of two ways. -/
theorem call_ends {s : Server τ} (sound : s.IsSound) (t : Tool) {given : Entries}
    (json : (dictionary given).IsJson) (takes : t.Takes given) :
    ∃ outcome entry s', (call t given).run.run s = (.ok outcome, s') ∧
      Working (s.audit.push entry) s' ∧ entry.tool = t.name ∧ entry.Tells outcome := by
  obtain ⟨args, taken⟩ := takes.arguments
  obtain ⟨outcome, entry, s', ends⟩ := run_ends sound t (t.arguments_isJson json taken)
  exact ⟨outcome, entry, s', (call_run taken s).trans ends.1, ends.2⟩

/-- Starting the server changes neither the audit trail nor the state that it is in. -/
theorem start_gives {audit : AuditLog} :
    Gives (Working audit) (fun _ => True) (start : Serving τ Transport) := by
  have note : ∀ level message, Gives (Working audit) (fun _ => True)
      (Serving.note level message : Serving τ Unit) := Serving.note_gives
  have access : Gives (Working audit) (fun _ => True) (checkAccess : Serving τ Unit) := by
    unfold checkAccess
    refine Serving.client_gives.bind fun (account, memory) sound => ?_
    refine (Serving.operate_gives account sound
      (Account.validateCredentials_gives account)).bind fun summary _ => ?_
    refine (note _ _).bind fun _ _ => (note _ _).bind fun _ _ => ?_
    split <;> exact note _ _
  unfold start
  refine Gives.bind (Q := fun _ => True) ?_ fun _ _ => ?_
  · exact .tryCatch access fun e told => (note _ _).bind fun _ _ => .throw told
  · unfold transport
    refine Gives.get.bind fun s _ => ?_
    dsimp only
    split
    · refine (Serving.ofFault_gives (Q := fun _ => True) fun _ _ => trivial).bind fun _ _ => ?_
      exact (note _ _).bind fun _ _ => .pure trivial
    · exact (note _ _).bind fun _ _ => .pure trivial

/-- What can happen to the server: a call of a tool with JSON data, whatever the tool makes of it;
a start; and a change of the world around it, from the clock and the network to the environment and
the settings. -/
inductive Step : Server τ → Server τ → Prop
  | call (t : Tool) (given : Entries) (json : (dictionary given).IsJson) (s : Server τ) :
      Step s ((Server.call t given).run.run s).2
  | start (s : Server τ) : Step s (Server.start.run.run s).2
  | world (surroundings : Surroundings τ) (environment : Environment) (settings : SettingsFile)
      (s : Server τ) :
      Step s { s with toSurroundings := surroundings, environment, settings }

theorem Step.isSound {s s' : Server τ} (step : Step s s') (h : s.IsSound) : s'.IsSound := by
  cases step with
  | call t given json =>
    cases taken : t.arguments given with
    | error f =>
      have same : ((Server.call t given).run.run s).2 = s := by
        unfold Server.call
        rw [run_bind, run_ofFault, taken]
        rfl
      rwa [same]
    | ok args =>
      obtain ⟨outcome, entry, s', ends, working, _⟩ :=
        run_ends h t (t.arguments_isJson json taken)
      rw [call_run taken, ends]
      refine ⟨?_, ?_, working.client⟩
      · rw [working.audit]
        exact h.maximum
      · rw [working.audit]
        exact AuditLog.push_length h.maximum entry
  | start =>
    obtain ⟨working, _⟩ := start_gives s ⟨rfl, h.client⟩
    exact ⟨working.audit ▸ h.maximum, working.audit ▸ h.entries, working.client⟩
  | world surroundings environment settings => exact ⟨h.maximum, h.entries, h.client⟩

theorem reach_isSound {s s' : Server τ} (fresh : s.IsFresh)
    (run : Relation.ReflTransGen Step s s') : s'.IsSound := by
  induction run with
  | refl => exact fresh.isSound
  | tail _ step ih => exact step.isSound ih

/-- However the server came to be in its state, a call of a tool with JSON data ends with a text or
with a report, and the audit trail gains one entry that tells which; the oldest one is dropped
beyond a thousand. -/
theorem reach_call_audited_once {s s' : Server τ} (fresh : s.IsFresh)
    (run : Relation.ReflTransGen Step s s') (t : Tool) {given : Entries}
    (json : (dictionary given).IsJson) (takes : t.Takes given) :
    ∃ outcome entry s'', (call t given).run.run s' = (.ok outcome, s'') ∧
      s''.audit.entries =
        (s'.audit.entries ++ [entry]).drop (s'.audit.entries.length + 1 - 1000) ∧
      entry.tool = t.name ∧ entry.Tells outcome := by
  have sound := reach_isSound fresh run
  obtain ⟨outcome, entry, s'', ends, working, tool, tells⟩ := call_ends sound t json takes
  exact ⟨outcome, entry, s'', ends,
    working.audit ▸ AuditLog.push_entries sound.maximum entry, tool, tells⟩

/-- A record whose ID is a number, from a server that was not called yet: the first entry of the
trail tells of the report. -/
theorem reach_call_audited_once_first : ∃ outcome entry s'',
    (call .getRecord [(.text "table", .text "Tasks"), (.text "record_id", .int 7)]).run.run
      ({ now := 0, settings := ⟨"settings.json", .missing⟩,
         replies := [.answer 500 "out of order"] } : Server Float) = (.ok outcome, s'') ∧
      s''.audit.entries = [entry] ∧ entry.tool = "airtable_get_record" ∧ entry.Tells outcome := by
  let fresh : Server Float := { now := 0, settings := ⟨"other.json", .directory⟩ }
  let world : Surroundings Float := { now := 0, replies := [.answer 500 "out of order"] }
  have step := Step.world world [] ⟨"settings.json", .missing⟩ fresh
  have json : (dictionary [(.text "table", .text "Tasks"), (.text "record_id", .int 7)]).IsJson :=
    ⟨⟨_, rfl⟩, trivial, ⟨_, rfl⟩, isJson_count (n := 7) (by decide), trivial⟩
  have takes : Tool.getRecord.Takes
      [(.text "table", .text "Tasks"), (.text "record_id", .int 7)] :=
    ⟨List.forall_mem_cons.mpr ⟨⟨.needed "table", .head _, by decide⟩,
      List.forall_mem_singleton.mpr ⟨.needed "record_id", .tail _ (.head _), by decide⟩⟩, by decide⟩
  obtain ⟨outcome, entry, s'', ends, entries, tool, tells⟩ :=
    reach_call_audited_once ⟨rfl, rfl⟩ (.single step) .getRecord json takes
  have name : Tool.getRecord.name = "airtable_get_record" := by decide
  have first : s''.audit.entries = [entry] := by simpa [fresh] using entries
  exact ⟨outcome, entry, s'', ends, first, tool.trans name, tells⟩

end Server

end BaseGateway
