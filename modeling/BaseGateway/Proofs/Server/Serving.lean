import BaseGateway.Proofs.Server.Handling
import BaseGateway.Proofs.Settings.Connection
import BaseGateway.Server.Start

/-!
# What a tool does to the server

Whatever a tool does before its outcome is noted, it leaves the audit trail alone, what the client
remembers can still be shown, and the outcome is JSON data or a failure that can be told
(`Server.perform_gives`).

* setting up the client and carrying out an operation of it keeps the server in that state
  (`Serving.client_gives`, `Serving.operate_gives`);
* the status of the server counts what is there and changes nothing else (`Server.status_gives`).
-/

namespace BaseGateway

open Value

variable {τ : Type}

/-- The audit trail is a certain one, and what the client remembers, if there is one, can be
shown. -/
structure Server.Working (audit : AuditLog) (s : Server τ) : Prop where
  audit : s.audit = audit
  client : ∀ account memory, s.client = some (account, memory) → memory.IsSound

open Server

namespace Serving

variable {α : Type} {audit : AuditLog} {Q : α → Prop}

theorem ofExcept_gives {I : Server τ → Prop} {x : Except Failure α} (h : Outcome Q x) :
    Gives I Q (ofExcept x : Serving τ α) := fun _ held => ⟨held, h⟩

theorem ofFault_gives {I : Server τ → Prop} {x : Except Fault α} (h : ∀ a, x = .ok a → Q a) :
    Gives I Q (ofFault x : Serving τ α) := ofExcept_gives (.ofFault h)

theorem note_gives (level : Level) (message : String) :
    Gives (Working audit) (fun _ => True) (note level message : Serving τ Unit) :=
  .modify fun _ working => ⟨working.audit, working.client⟩

theorem ofLogged_gives {x : Logged α} (h : Gives (fun _ => True) Q x) :
    Gives (Working audit) Q (ofLogged x : Serving τ α) :=
  fun s working => ⟨⟨working.audit, working.client⟩, (h s.journal trivial).2⟩

/-- A connection never allows more requests than can be shown. -/
theorem connection_gives : Gives (Working audit) (fun c => Decimal.IsShort c.maxRequests)
    (connection : Serving τ Connection) := by
  unfold connection
  refine Gives.get.bind fun s _ => ofLogged_gives ?_
  exact (Settings.load_gives s.settings).bind fun entries read =>
    Logged.ofExcept_gives (.ofFault fun c made =>
      Connection.ofSettings_isShort (Settings.inForce_values read) made)

/-- An operation of a client leaves the rest of the server alone. -/
theorem operate_gives (account : Account) {memory : Memory τ} (sound : memory.IsSound)
    {x : Operation τ α} (h : Gives Session.IsSound Q x) :
    Gives (Working audit) Q (operate account memory x : Serving τ α) := by
  intro s working
  obtain ⟨kept, given⟩ := h { toSurroundings := s.toSurroundings, toMemory := memory } sound
  refine ⟨⟨working.audit, fun account' memory' same => ?_⟩, given⟩
  obtain ⟨_, rfl⟩ := Prod.mk.inj (Option.some.inj same)
  exact kept

variable [OfNat τ 1]

theorem client_isSound {c : Connection} (h : Decimal.IsShort c.maxRequests) :
    (c.client (τ := τ)).2.IsSound := ⟨h, List.forall_mem_nil _⟩

/-- The client that is set up remembers what can be shown. -/
theorem client_gives : Gives (Working audit) (fun client => client.2.IsSound)
    (Serving.client : Serving τ (Account × Memory τ)) := by
  unfold Serving.client
  refine Gives.get.bind fun s working => ?_
  split
  · next known same => exact .pure (working.client _ _ same)
  · refine connection_gives.bind fun c short => ?_
    refine (ofFault_gives (Q := fun _ => True) fun _ _ => trivial).bind fun verdict _ => ?_
    cases verdict with
    | rejected reason => exact .throw trivial
    | accepted summary =>
      refine (Gives.modify fun s' h => ⟨h.audit, ?_⟩).bind fun _ _ => .pure (client_isSound short)
      intro account memory same
      have client : c.client = (account, memory) := Option.some.inj same
      have sound : (c.client (τ := τ)).2.IsSound := client_isSound short
      rwa [client] at sound

end Serving

namespace Server

theorem baseHint_isJson {base hint : Value} (h : baseHint base = .ok hint) : hint.IsJson := by
  unfold baseHint at h
  split at h
  · obtain rfl := Except.ok.inj h
    trivial
  · split at h
    · obtain rfl := Except.ok.inj h
      trivial
    · obtain ⟨shown, _, h⟩ := Except.bind_ok h
      obtain rfl := Except.ok.inj h
      trivial
    · cases h
    · cases h

theorem limits_isJson : Limits.toValue.IsJson := by
  refine isJson_record ?_
  intro field mem
  obtain ⟨⟨name, n⟩, inShown, rfl⟩ := List.mem_map.mp mem
  refine isJson_count ?_
  simp only [Limits.shown, List.mem_cons, Prod.mk.injEq, List.not_mem_nil, or_false] at inShown
  rcases inShown with ⟨_, rfl⟩ | ⟨_, rfl⟩ | ⟨_, rfl⟩ | ⟨_, rfl⟩ | ⟨_, rfl⟩ | ⟨_, rfl⟩ | ⟨_, rfl⟩ |
    ⟨_, rfl⟩ <;> decide

/-- The numbers of calls in the audit trail can be shown. -/
theorem summary_isJson {log : AuditLog} (few : log.entries.length ≤ 1000) :
    log.summary.IsJson := by
  have count : ∀ p : AuditEntry → Bool, (Value.int (log.entries.countP p)).IsJson := fun p => by
    have fewer := List.countP_le_length (p := p) (l := log.entries)
    exact isJson_count (by omega)
  unfold AuditLog.summary
  split
  · exact isJson_fields (isJson_count (n := 0) (by decide))
  · exact isJson_fields ⟨isJson_count (by omega), count _, count _, isJson_ofTexts _⟩

theorem securityStatus_isJson {log : AuditLog} (few : log.entries.length ≤ 1000)
    {limiter : Option Value} (h : ∀ v ∈ limiter, v.IsJson) :
    (securityStatus log limiter).IsJson := by
  cases limiter with
  | none => exact isJson_fields (summary_isJson few)
  | some v => exact isJson_fields ⟨summary_isJson few, h v rfl⟩

variable [Sub τ] [LT τ] [DecidableLT τ]

theorem limiterStatus_gives {audit : AuditLog} :
    Gives (Working audit) (fun limiter => ∀ v ∈ limiter, v.IsJson)
      (limiterStatus : Serving τ (Option Value)) := by
  unfold limiterStatus
  refine Gives.get.bind fun s working => ?_
  split
  · exact .pure fun v mem => by cases mem
  · next account memory known =>
    have sound := working.client account memory known
    let pruned : Memory τ := { memory with limiter := memory.limiter.prune s.now }
    have kept : Working audit { s with client := some (account, pruned) } := by
      refine ⟨working.audit, fun _ memory' same => ?_⟩
      obtain ⟨_, rfl⟩ := Prod.mk.inj (Option.some.inj same)
      exact ⟨sound.maximum, sound.cache⟩
    refine (Gives.set kept).bind fun _ _ => ?_
    refine (Serving.ofFault_gives fun _ => count_ok).bind fun number ⟨same, few⟩ => .pure ?_
    intro v mem
    obtain rfl := Option.some.inj mem
    exact isJson_fields ⟨same ▸ few, sound.maximum, trivial⟩

/-- What the status of the server counts can be shown. -/
theorem status_gives {audit : AuditLog} (few : audit.entries.length ≤ 1000) :
    Gives (Working audit) IsJson (status : Serving τ Value) := by
  unfold status
  refine Serving.connection_gives.bind fun c _ => ?_
  refine (Serving.ofFault_gives (Q := fun _ => True) fun _ _ => trivial).bind fun verdict _ => ?_
  refine (Serving.ofFault_gives fun _ => baseHint_isJson).bind fun base shown => ?_
  refine limiterStatus_gives.bind fun limiter known => Gives.get.bind fun s working => ?_
  have security : (securityStatus s.audit limiter).IsJson :=
    securityStatus_isJson (working.audit ▸ few) known
  have whole : ∀ cached : List (String × Value), (∀ field ∈ cached, field.2.IsJson) →
      (Value.record ([("server", .text Product.serverName), ("version", .text Product.version),
        ("configured", .bool verdict.isAccepted), ("configMessage", .text verdict.message),
        ("defaultBaseId", base), ("limits", Limits.toValue),
        ("security", securityStatus s.audit limiter)] ++ cached)).IsJson :=
    fun cached json => isJson_record (List.forall_mem_append.mpr ⟨List.forall_iff_forall_mem.mp
      ⟨trivial, trivial, trivial, trivial, shown, limits_isJson, security⟩, json⟩)
  dsimp only
  split
  · exact Gives.bind (.pure (List.forall_mem_nil _)) fun cached json => .pure (whole cached json)
  · refine (Serving.ofFault_gives fun _ => count_ok).bind fun number counted => .pure ?_
    exact whole _ (List.forall_mem_singleton.mpr counted.2)

variable [Add τ] [OfNat τ 0] [OfNat τ 1] [Duration τ]

/-- Every tool but the status of the server has a handler. -/
theorem handle_gives {audit : AuditLog} {t : Tool} (other : t ≠ .getServerStatus) {args : Value}
    (json : args.IsJson) : Gives (Working audit) IsJson (handle t args : Serving τ Value) := by
  unfold handle
  refine Serving.client_gives.bind fun (account, memory) sound => Gives.get.bind fun s _ => ?_
  dsimp only at sound ⊢
  split
  · next operation handler =>
    exact Serving.operate_gives account sound (t.handler?_gives s.settings account json handler)
  · next none => cases t <;> first | exact absurd rfl other | cases none

/-- A server that is neither more nor less than it should be. -/
structure IsSound (s : Server τ) : Prop where
  maximum : s.audit.maximum = 1000
  entries : s.audit.entries.length ≤ 1000
  client : ∀ account memory, s.client = some (account, memory) → memory.IsSound

/-- What a tool does leaves the audit trail alone, and ends with JSON data or a failure that can be
told. -/
theorem perform_gives {audit : AuditLog} (few : audit.entries.length ≤ 1000) (t : Tool)
    {args : Value} (json : args.IsJson) :
    Gives (Working audit) IsJson (perform t args : Serving τ Value) := by
  unfold perform
  by_cases status : t = .getServerStatus
  · rw [if_pos status]
    exact status_gives few
  · rw [if_neg status]
    exact handle_gives status json

end Server

end BaseGateway
