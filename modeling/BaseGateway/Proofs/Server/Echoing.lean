import BaseGateway.Proofs.Condition.Building
import BaseGateway.Proofs.Server.Agreement

/-!
# Queries that are asked again

A query of conditions echoes them in its result. The echo can be handed in again: read by itself it
is the conditions of the query, in their order, and as the arguments of another query it leads to
the same formula and the same echo (`Handler.smartQuery_echo_reproduces`), for the same table and
any other, from any session and for any account.
-/

namespace BaseGateway

open Checked Intake

/-- The conditions of a query were read, and there are as many as there may be. -/
theorem SmartQuery.read_restored (args : Value) : (read args).Every fun q =>
    (∀ k ∈ q.conditions, k.Restored) ∧ 1 ≤ q.conditions.length ∧
      q.conditions.length ≤ Limits.conditions := by
  refine fromDictionary_every _ fun entries _ => ?_
  refine .seq_any _ <| .seq_any _ <| .seq_any _ <| Every.seq (Every.map (.any _) ?_)
    (required_any .conditions fun v => (listOf_every 1 Limits.conditions fun _ _ w _ =>
      Condition.read_restored w).and (listOf_length Condition.read 1 Limits.conditions v))
  exact fun _ _ conditions restored _ _ _ => restored

/-- A query that repeats the conditions of one that was read, as they were echoed. -/
theorem SmartQuery.echo_again {args : Value} {q : SmartQuery} (read' : read args = .valid q)
    {entries : Entries}
    (conditions : Label.conditions.Holds (.list (q.conditions.map (·.arguments.echo))) entries)
    (how : Label.combineWith.Holds (.text q.combineWith.name) entries) {target : Target}
    (addressed : Target.read entries = .valid target) {extent : Extent}
    (limited : Extent.read entries = .valid extent) {sort : Option (List SortField)}
    (sorted : SortField.readAll entries = .valid sort) :
    read (.dictionary entries) =
      .valid ⟨target, q.conditions, q.combineWith, extent, sort⟩ := by
  obtain ⟨restored, some, few⟩ := read_restored args q read'
  have combined : oneOf Combination.names (.text q.combineWith.name) = .valid q.combineWith := by
    cases q.combineWith <;> rfl
  unfold read fromDictionary
  dsimp only
  rw [addressed, conditions.required rfl
    (listOf_again some few fun k mem => (restored k mem).echo_again),
    how.withDefault rfl combined, limited, sorted]
  rfl

namespace Handler

variable {τ : Type}

/-- A request that an operation went on with was accepted. -/
theorem request_ok {α : Type} {x : Checked α} {s s' : Session τ} {y : α}
    (ran : (request x : Operation τ α).run.run s = (.ok y, s')) : x = .valid y := by
  cases x with
  | valid z =>
    cases ran
    rfl
  | flawed first rest => cases ran

/-- The records that were found are shown with what was asked. -/
theorem found_ok {query : List (String × Value)} {records : List Value} {v : Value}
    (h : found query records = .ok v) :
    ∃ count, v = .record [("query", .record query), ("recordCount", count),
      ("records", .list records)] := by
  obtain ⟨count, -, h⟩ := Except.bind_ok h
  exact ⟨count, (Except.ok.inj h).symm⟩

variable [Add τ] [Sub τ] [OfNat τ 0] [LT τ] [DecidableLT τ] [Duration τ] (settings : SettingsFile)
  (a : Account)

/-- A query of conditions that was answered echoes them, and the echo is read as the conditions. A
query with the echoed conditions, combined as was echoed, is accepted, and from any session it
writes the same formula and goes on to show what the formula selects under the same echo. -/
theorem smartQuery_echo_reproduces {args result : Value} {s last : Session τ}
    (answered : (smartQuery settings a args).run.run s = (.ok result, last)) :
    ∃ (q : SmartQuery) (conditions how : Value) (formula : Formula) (count : Value)
      (records : List Value), SmartQuery.read args = .valid q ∧
      let query := [("conditions", conditions), ("combineWith", how),
        ("formula", Value.text formula.text)]
      result = .record [("query", .record query), ("recordCount", count),
        ("records", .list records)] ∧
      readConditions conditions = .ok q.conditions ∧
      ∀ {entries : Entries} {target : Target} {extent : Extent} {sort : Option (List SortField)},
        Label.conditions.Holds conditions entries → Label.combineWith.Holds how entries →
        Target.read entries = .valid target → Extent.read entries = .valid extent →
        SortField.readAll entries = .valid sort →
        SmartQuery.read (.dictionary entries) =
            .valid ⟨target, q.conditions, q.combineWith, extent, sort⟩ ∧
          ∀ (b : Account) (t : Session τ), ∃ journal,
            (smartQuery settings b (.dictionary entries)).run.run t =
              (select b target formula extent sort >>= fun records =>
                Operation.ofFault (found query records)).run.run { t with journal } := by
  obtain ⟨q, s₁, asked, answered⟩ := run_bind_ok answered
  obtain ⟨formula, s₂, written, answered⟩ := run_bind_ok answered
  obtain ⟨records, s₃, -, answered⟩ := run_bind_ok answered
  have accepted := request_ok asked
  rw [Operation.run_ofLogged] at written
  rw [Operation.run_ofFault] at answered
  obtain ⟨count, shown⟩ := found_ok (orFault_eq_ok.mp (Prod.mk.inj answered).1)
  refine ⟨q, _, _, formula, count, records, accepted, shown, readConditions_echo
    (SmartQuery.read_restored args q accepted).1, ?_⟩
  intro entries target extent sort conditions how addressed limited sorted
  have again := SmartQuery.echo_again accepted conditions how addressed limited sorted
  refine ⟨again, fun b t => ?_⟩
  have settled : Settled _ (.ok formula) := .of_run (s := s₁.journal)
    (q.combineWith.ofConditions_settled settings q.conditions)
    (Prod.ext (Prod.mk.inj written).1 rfl)
  obtain ⟨journal, built⟩ := settled t.journal
  refine ⟨journal, ?_⟩
  unfold smartQuery
  rw [again, request_valid, run_bind, Operation.run_ofLogged]
  dsimp only
  rw [built]

/-- A query with a condition of each kind, whose echo is handed in for the same table. -/
theorem smartQuery_echo_reproduces_kinds :
    let settings : SettingsFile := ⟨"settings.json", .missing⟩
    let s : Session Float :=
      { now := 0, limiter := { maximum := 5, window := 1 }, replies := [.answer 200 ""] }
    let conditions : List Value :=
      [.record [("type", .text "ageRange"), ("fieldName", .text "Age"), ("minAge", .int 3),
          ("maxAge", .text "5")],
        .record [("type", .text "multipleSelect"), ("field_name", .text "Hobby"),
          ("matchType", .text "hasAny"), ("values", .ofTexts ["Chess"])],
        .record [("type", .text "numberRange"), ("fieldName", .text "Height"),
          ("min_value", .int 2)],
        .record [("type", .text "dateRange"), ("fieldName", .text "Born"),
          ("endDate", .text "2020-02-01")],
        .record [("type", .text "customFormula"), ("formula", .text "\x7bActive\x7d")]]
    let args : Value := .record [("table", .text "People"), ("conditions", .list conditions)]
    ∃ result last q echoed how, (smartQuery settings .based args).run.run s = (.ok result, last) ∧
      SmartQuery.read args = .valid q ∧ readConditions echoed = .ok q.conditions ∧
      ∃ again, SmartQuery.read (.record [("table", .text "People"), ("conditions", echoed),
          ("combineWith", how)]) = .valid again ∧ again.conditions = q.conditions := by
  intro settings s conditions args
  obtain ⟨result, last, answered⟩ :
      ∃ result last, (smartQuery settings .based args).run.run s = (.ok result, last) := by
    have ok : ((smartQuery settings .based args).run.run s).1.isOk = true := by decide +kernel
    rcases ran : (smartQuery settings .based args).run.run s with ⟨e | result, last⟩
    · rw [ran] at ok
      cases ok
    · exact ⟨result, last, rfl⟩
  obtain ⟨q, echoed, how, _, _, _, accepted, -, again, resubmitted⟩ :=
    smartQuery_echo_reproduces settings .based answered
  let echo : Entries := [(.text "table", .text "People"), (.text "conditions", echoed),
    (.text "combineWith", how)]
  have repeated := (@resubmitted echo ⟨none, "People"⟩ ⟨none, none⟩ none
    (.inl ⟨"conditions", rfl⟩) (.inl ⟨"combineWith", rfl⟩) rfl rfl rfl).1
  exact ⟨result, last, q, echoed, how, answered, accepted, again, _, repeated, rfl⟩

end Handler

end BaseGateway
