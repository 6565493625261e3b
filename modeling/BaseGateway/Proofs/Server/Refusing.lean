import BaseGateway.Proofs.Server.Agreement
import BaseGateway.Server.Tool

/-!
# Calls that are refused

A handler turns to the client only after its arguments are read and, for a query, its formula is
written. So a call whose arguments are flawed, or whose formula cannot be written, ends with nothing
done: no request goes out, the network keeps its replies, and the limiter and the cached schemas are
as they were (`Tool.handler?_refused_keeps_session`). The journal alone may have grown, by what was
noted while the formula was being written.
-/

namespace BaseGateway

variable {τ : Type}

namespace Handler

variable {α β : Type}

/-- Flawed arguments end a handler where it stands, with all of their issues. -/
theorem request_flawed {x : Checked α} {first : Issue} {rest : List Issue}
    (flawed : (x.map fun _ => ()) = .flawed first rest) (next : α → Operation τ β)
    (s : Session τ) :
    (request x >>= next).run.run s = (.error (.refused (.invalid "Invalid tool arguments"
      (some ((first :: rest).map Issue.line)))), s) := by
  cases x with
  | valid y => cases flawed
  | flawed first rest =>
    cases flawed
    rfl

/-- What cannot be written ends a handler, with what was noted on the way. -/
theorem ofLogged_fails {x : Logged α} {s : Session τ} {e : Failure} {journal : Journal}
    (fails : x.run.run s.journal = (.error e, journal)) (next : α → Operation τ β) :
    (Operation.ofLogged x >>= next).run.run s = (.error e, { s with journal }) := by
  rw [run_bind, Operation.run_ofLogged, fails]

end Handler

namespace Tool

/-- How the arguments of a tool are read. A change of one record has its arguments described too,
though its handler fails before it reads them. -/
def reading (args : Value) : Tool → Checked Unit
  | .listBases | .getServerStatus => .valid ()
  | .listTables => (TableListing.read args).map fun _ => ()
  | .getTableSchema => (SchemaLookup.read args).map fun _ => ()
  | .listRecords => (RecordListing.read args).map fun _ => ()
  | .getRecord => (RecordTarget.readForLookup args).map fun _ => ()
  | .createRecord => (RecordCreation.read args).map fun _ => ()
  | .updateRecord => (RecordChange.read args).map fun _ => ()
  | .deleteRecord => (RecordTarget.readForDeletion args).map fun _ => ()
  | .setTableSchema => (SchemaDefinition.read args).map fun _ => ()
  | .queryByAgeRange => (AgeQuery.read args).map fun _ => ()
  | .queryMultipleSelect => (SelectQuery.read args).map fun _ => ()
  | .smartQuery => (SmartQuery.read args).map fun _ => ()
  | .batchCreateRecords => (BatchCreation.read args).map fun _ => ()
  | .batchUpdateRecords => (BatchChange.read args).map fun _ => ()
  | .batchDeleteRecords => (BatchDeletion.read args).map fun _ => ()

/-- The formula that a query writes once its arguments are accepted. -/
inductive Writes (settings : SettingsFile) (args : Value) : Tool → Logged Formula → Prop where
  | ages {q : AgeQuery} (accepted : AgeQuery.read args = .valid q) :
    Writes settings args .queryByAgeRange (Handler.ageFormula settings q)
  | options {q : SelectQuery} (accepted : SelectQuery.read args = .valid q) :
    Writes settings args .queryMultipleSelect
      ((Handler.selectCondition q).toFormula (Settings.ageLabels settings))
  | conditions {q : SmartQuery} (accepted : SmartQuery.read args = .valid q) :
    Writes settings args .smartQuery
      (q.combineWith.ofConditions (Settings.ageLabels settings) q.conditions)

variable [Add τ] [Sub τ] [OfNat τ 0] [LT τ] [DecidableLT τ] [Duration τ]

/-- Flawed arguments leave the session as it was. They are refused with all of their issues, except
by the handler that lacks the definition of its request. -/
theorem handler?_flawed {t : Tool} {settings : SettingsFile} {a : Account} {args : Value}
    {operation : Operation τ Value} (handled : t.handler? settings a args = some operation)
    {first : Issue} {rest : List Issue} (flawed : t.reading args = .flawed first rest)
    (s : Session τ) :
    ∃ e, operation.run.run s = (.error e, s) ∧ (t ≠ .updateRecord →
      e = .refused (.invalid "Invalid tool arguments"
        (some ((first :: rest).map Issue.line)))) := by
  cases t <;> cases handled
  case listBases => cases flawed
  case updateRecord => exact ⟨_, rfl, fun other => absurd rfl other⟩
  all_goals exact ⟨_, Handler.request_flawed flawed _ s, fun _ => rfl⟩

/-- A formula that cannot be written leaves the session as it was but for the journal. -/
theorem handler?_unwritten {t : Tool} {settings : SettingsFile} {a : Account} {args : Value}
    {operation : Operation τ Value} (handled : t.handler? settings a args = some operation)
    {formula : Logged Formula} (writes : t.Writes settings args formula) {s : Session τ}
    {e : Failure} {journal : Journal}
    (fails : formula.run.run s.journal = (.error e, journal)) :
    operation.run.run s = (.error e, { s with journal }) := by
  cases writes with
  | ages accepted =>
    cases handled
    unfold Handler.queryByAge
    rw [accepted, Handler.request_valid]
    exact Handler.ofLogged_fails fails _
  | options accepted =>
    cases handled
    unfold Handler.queryByOptions
    rw [accepted, Handler.request_valid]
    exact Handler.ofLogged_fails fails _
  | conditions accepted =>
    cases handled
    unfold Handler.smartQuery
    rw [accepted, Handler.request_valid]
    exact Handler.ofLogged_fails fails _

/-- A call with flawed arguments, or with a formula that cannot be written, fails, and whatever the
session was, it sends nothing, takes up no reply and leaves the clock, the limiter and the cached
schemas as they were. -/
theorem handler?_refused_keeps_session {t : Tool} {settings : SettingsFile} {a : Account}
    {args : Value} {operation : Operation τ Value}
    (handled : t.handler? settings a args = some operation) (s : Session τ)
    (refused : (∃ first rest, t.reading args = .flawed first rest) ∨
      ∃ formula e journal, t.Writes settings args formula ∧
        formula.run.run s.journal = (.error e, journal)) :
    ∃ e journal, operation.run.run s = (.error e, { s with journal }) := by
  rcases refused with ⟨first, rest, flawed⟩ | ⟨formula, e, journal, writes, fails⟩
  · obtain ⟨e, ran, -⟩ := handler?_flawed handled flawed s
    exact ⟨e, s.journal, ran⟩
  · exact ⟨e, journal, handler?_unwritten handled writes fails⟩

/-- A query without conditions, and one whose second condition has a date that is none. -/
theorem handler?_refused_keeps_session_queries :
    let settings : SettingsFile := ⟨"settings.json", .missing⟩
    let s : Session Float :=
      { now := 0, limiter := { maximum := 5, window := 1 }, replies := [.answer 200 "\x7b\x7d"] }
    let query (conditions : List Value) : Value :=
      .record [("table", .text "People"), ("conditions", .list conditions)]
    let late := [
      Value.record [("type", .text "customFormula"), ("formula", .text "\x7bActive\x7d")],
      .record [("type", .text "dateRange"), ("fieldName", .text "Born"),
        ("startDate", .text "tomorrow")]]
    (∃ first rest, smartQuery.reading (query []) = .flawed first rest) ∧
      (∃ e journal, (Handler.smartQuery settings .based (query [])).run.run s =
        (.error e, { s with journal })) ∧
      (∃ formula e journal, smartQuery.Writes settings (query late) formula ∧
        formula.run.run s.journal = (.error e, journal)) ∧
      ∃ e journal, (Handler.smartQuery settings .based (query late)).run.run s =
        (.error e, { s with journal }) := by
  intro settings s query late
  have flawed : ∃ first rest, smartQuery.reading (query []) = .flawed first rest := ⟨_, _, rfl⟩
  have unwritten : ∃ formula e journal, smartQuery.Writes settings (query late) formula ∧
      formula.run.run s.journal = (.error e, journal) :=
    ⟨_, _, _, .conditions (q := ⟨⟨none, "People"⟩, [.customFormula "\x7bActive\x7d",
      .dateRange ⟨"Born", some "tomorrow", none⟩], .and, ⟨none, none⟩, none⟩) rfl, rfl⟩
  exact ⟨flawed, handler?_refused_keeps_session rfl s (.inl flawed), unwritten,
    handler?_refused_keeps_session rfl s (.inr unwritten)⟩

end Tool

end BaseGateway
