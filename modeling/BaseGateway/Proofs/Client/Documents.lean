import BaseGateway.Client.Batch
import BaseGateway.Proofs.Json.Reading
import BaseGateway.Proofs.Outcome

/-!
# What is read out of documents

The document in a reply is JSON data, or a failure that can be told (`Reply.document_outcome`). So
is all that the client takes out of it: excerpts of the descriptions of bases and tables, schemas,
records and IDs.
-/

namespace BaseGateway

namespace Value

/-- An excerpt of JSON data is JSON data. -/
theorem excerpt_isJson {names : List String} {v w : Value} (json : v.IsJson)
    (read : excerpt names v = .ok w) : w.IsJson := by
  unfold excerpt at read
  obtain ⟨entries, each, read⟩ := Except.bind_ok read
  obtain rfl := Except.ok.inj read
  refine isJson_record (Except.mapM_each (fun name _ entry found => ?_) each)
  obtain ⟨part, got, same⟩ := Except.bind_ok found
  obtain rfl := Except.ok.inj same
  exact get_isJson json got

theorem itemsUnder_isJson {name : String} {v : Value} {items : List Value} (json : v.IsJson)
    (read : itemsUnder name v = .ok items) : AreJson items := by
  unfold itemsUnder at read
  obtain ⟨list, got, parts⟩ := Except.bind_ok read
  have nothing : IsJson (.list []) := trivial
  exact parts_isJson (getOr_isJson json nothing got) parts

/-- The items under a name, each of them brought into a shape that is JSON data. -/
theorem shownUnder_isJson {name : String} {v : Value} {shown : List Value}
    {f : Value → Except Fault Value} (json : v.IsJson)
    (each : ∀ w u, w.IsJson → f w = .ok u → u.IsJson)
    (read : (do (← itemsUnder name v).mapM f) = .ok shown) : AreJson shown := by
  obtain ⟨items, under, mapped⟩ := Except.bind_ok read
  have parts := itemsUnder_isJson json under
  exact Except.mapM_each (fun w mem u => each w u (parts w mem)) mapped

end Value

open Value

theorem shownRecord_isJson {record shown : Value} (json : record.IsJson)
    (read : shownRecord record = .ok shown) : shown.IsJson := by
  unfold shownRecord at read
  obtain ⟨id, first, read⟩ := Except.bind_ok read
  obtain ⟨fields, second, read⟩ := Except.bind_ok read
  obtain ⟨time, third, read⟩ := Except.bind_ok read
  obtain rfl := Except.ok.inj read
  have nothing : IsJson (.dictionary []) := trivial
  exact isJson_fields
    ⟨get_isJson json first, getOr_isJson json nothing second, get_isJson json third⟩

theorem recordsIn_isJson {data : Value} {records : List Value} (json : data.IsJson)
    (read : recordsIn data = .ok records) : AreJson records :=
  shownUnder_isJson json (fun _ _ => shownRecord_isJson) read

theorem deletedIn_isJson {data : Value} {ids : List Value} (json : data.IsJson)
    (read : Account.deletedIn data = .ok ids) : AreJson ids := by
  unfold Account.deletedIn at read
  obtain ⟨records, under, read⟩ := Except.bind_ok read
  obtain ⟨found, each, read⟩ := Except.bind_ok read
  obtain rfl := Except.ok.inj read
  have parts := itemsUnder_isJson json under
  have known : ∀ id? ∈ found, ∀ id ∈ id?, IsJson id := by
    refine Except.mapM_each (fun record mem id? run => ?_) each
    obtain ⟨deleted, _, run⟩ := Except.bind_ok run
    split at run
    · obtain ⟨id, got, run⟩ := Except.bind_ok run
      obtain rfl := Except.ok.inj run
      intro id' mem'
      obtain rfl := Option.some.inj mem'
      exact item_isJson (parts record mem) got
    · obtain rfl := Except.ok.inj run
      intro id mem'
      cases mem'
  intro id mem
  obtain ⟨id?, inFound, is⟩ := List.mem_filterMap.mp mem
  exact known id? inFound id is

/-- A schema that can be shown. -/
structure Schema.IsJson (s : Schema) : Prop where
  id : s.id.IsJson
  name : s.name.IsJson
  fields : AreJson s.fields

namespace Schema

theorem IsJson.toValue {s : Schema} (h : s.IsJson) : s.toValue.IsJson :=
  isJson_fields ⟨h.id, h.name, h.fields.isJson⟩

theorem isJson_basic (table : String) : (Schema.basic table).IsJson :=
  ⟨trivial, trivial, List.forall_mem_nil _⟩

theorem ofDescription_isJson {table name : Value} {s : Schema} (json : table.IsJson)
    (read : ofDescription table = .ok (name, s)) : s.IsJson := by
  unfold ofDescription at read
  obtain ⟨name', first, read⟩ := Except.bind_ok read
  obtain ⟨id, second, read⟩ := Except.bind_ok read
  obtain ⟨items, under, read⟩ := Except.bind_ok read
  obtain ⟨fields, each, read⟩ := Except.bind_ok read
  obtain ⟨_, _, read⟩ := Except.bind_ok read
  obtain ⟨rfl, rfl⟩ := Prod.mk.inj (Except.ok.inj read)
  have parts := itemsUnder_isJson json under
  have shown := Except.mapM_each (fun w mem u => excerpt_isJson (parts w mem)) each
  exact ⟨get_isJson json second, item_isJson json first, shown⟩

end Schema

theorem numberForm_outcome (v field : Value) : Outcome (fun _ => True) (numberForm v field) := by
  unfold numberForm
  split
  · exact trivial
  · exact trivial
  · refine Outcome.bind (.ofFault_any _) fun shown _ => ?_
    split
    · exact trivial
    · exact Outcome.bind (.ofFault_any _) fun _ _ =>
        Outcome.bind (.ofFault_any _) fun _ _ => trivial

theorem fieldForm_outcome (v field : Value) : Outcome (fun _ => True) (fieldForm v field) := by
  unfold fieldForm
  split
  · exact trivial
  · refine Outcome.bind (.ofFault_any _) fun kind _ => ?_
    have shown : ∀ {α : Type} (x : Except Fault α) (next : α → Value),
        Outcome (fun _ => True) (do return next (← Except.orFault x)) :=
      fun x next => Outcome.bind (.ofFault_any x) fun _ _ => trivial
    have refused : ∀ word : String → String, Outcome (fun _ => True) (do
        let type ← Except.orFault (do (← field.get "type").display)
        throw (.refused (.invalidInput (word type))) : Except Failure Value) :=
      fun word => Outcome.bind (.ofFault_any _) fun _ _ => trivial
    split
    case h_5 =>
      split
      · exact trivial
      · exact shown v.display fun s => .list [.text s]
    case h_7 => exact numberForm_outcome v field
    case h_9 => exact shown (v.asItems.mapM linkForm) .list
    case h_12 => exact refused fun type => s!"Field type \"{type}\" is AI-generated and read-only"
    case h_13 => exact refused fun type => s!"Field type \"{type}\" is read-only and cannot be set"
    all_goals first
      | exact trivial
      | exact shown v.display .text

/-- A value that does not suit its field is refused in a way that can be told. -/
theorem convertFields_outcome (fields : Entries) (descriptions : List Value) :
    Outcome (fun _ => True) (convertFields fields descriptions) := by
  unfold convertFields
  refine Outcome.bind (.ofFault_any _) fun known _ => ?_
  refine (Outcome.mapM (S := fun _ => True) fun field _ => ?_).mono fun _ _ => trivial
  refine Outcome.bind (Q := fun _ => True) ?_ fun _ _ => trivial
  unfold convertField
  split
  · exact trivial
  · refine Outcome.bind (.ofFault_any _) fun problem _ => ?_
    split
    · exact trivial
    · exact fieldForm_outcome _ _

/-- What the service says in a failed answer makes a refusal that can be told. -/
theorem Refusal.ofAnswer_isReportable {status : Int} {said : Value} {r : Refusal}
    (h : ofAnswer status said = .ok r) : r.IsReportable := by
  unfold ofAnswer at h
  obtain ⟨⟨name, message⟩, _, h⟩ := Except.bind_ok h
  dsimp only at h
  split at h <;> obtain rfl := Except.ok.inj h
  case h_5 =>
    intro n mem
    obtain rfl := Option.some.inj mem
    exact (isJson_count (n := 30) (by decide) : IsJson (.int 30))
  all_goals trivial

/-- The document in a reply is JSON data. -/
theorem Reply.document_outcome (r : Reply) : Outcome IsJson r.document := by
  unfold Reply.document
  split
  · exact trivial
  · exact trivial
  · next status body =>
    split
    · split
      · trivial
      · exact .ofFault fun v read => Json.read_isJson read
    · dsimp only
      split
      · next r refusal => exact Refusal.ofAnswer_isReportable refusal
      · exact trivial

end BaseGateway
