import BaseGateway.Proofs.Client.Yield
import BaseGateway.Proofs.Condition.Telling
import BaseGateway.Proofs.Request
import BaseGateway.Server.Tool

/-!
# What handlers give

The handler of every tool gives JSON data or a failure that can be told, whatever JSON data it is
called with and whatever the network replies (`Tool.handler?_gives`).
-/

namespace BaseGateway

open Checked Operation Session Value

namespace Handler

variable {τ : Type}

theorem request_gives {α : Type} {Q : α → Prop} {x : Checked α} (h : Every Q x) :
    Gives IsSound Q (request x : Operation τ α) := ofExcept_gives h.request

theorem read_gives {α : Type} (x : Checked α) :
    Gives IsSound (fun _ => True) (request x : Operation τ α) := request_gives (.any x)

/-- What is shown together with a number of things is JSON data where it is for every number. -/
theorem counting_gives {n : Nat} {made : Value → Value}
    (json : ∀ number, number.IsJson → (made number).IsJson) :
    Gives IsSound IsJson
      (ofFault (do return made (← Value.count n)) : Operation τ Value) := by
  refine ofFault_gives fun shown run => ?_
  obtain ⟨number, counted, run⟩ := Except.bind_ok run
  obtain rfl := Except.ok.inj run
  exact json number (count_ok counted).2

theorem counted_gives (name : String) {items : List Value} (json : AreJson items) :
    Gives IsSound IsJson (ofFault (counted name items) : Operation τ Value) :=
  counting_gives fun _ number => isJson_fields ⟨number, json.isJson⟩

theorem found_gives {query : List (String × Value)}
    (asked : query.Forall fun field => field.2.IsJson) {records : List Value}
    (json : AreJson records) :
    Gives IsSound IsJson (ofFault (found query records) : Operation τ Value) :=
  counting_gives fun _ number => isJson_fields ⟨isJson_fields asked, number, json.isJson⟩

theorem written_gives {records : List Value} (json : AreJson records) :
    Gives IsSound IsJson (ofFault (written records) : Operation τ Value) :=
  counting_gives fun _ number => isJson_fields ⟨trivial, number, json.isJson⟩

theorem deleted_gives {ids : List Value} (json : AreJson ids) :
    Gives IsSound IsJson (ofFault (deleted ids) : Operation τ Value) :=
  counting_gives fun _ number => isJson_fields ⟨trivial, number, json.isJson⟩

theorem leavesOutAttachments_gives (settings : SettingsFile) (asked : Option Bool) :
    Gives (fun _ => True) (fun _ => True) (leavesOutAttachments settings asked) := by
  unfold leavesOutAttachments
  cases asked with
  | some b => exact .pure trivial
  | none => exact (Settings.load_gives settings).bind fun _ _ => .pure trivial

theorem ageFormula_gives (settings : SettingsFile) (q : AgeQuery) :
    Gives (fun _ => True) (fun _ => True) (ageFormula settings q) := by
  have built : ∀ labels, Gives (fun _ => True) (fun _ => True) (do
      let formula ←
        Formula.ofAges (.text q.ageFieldName) (.int q.ages.minAge) (.int q.ages.maxAge) labels
      return withFilters formula q.additionalFilters) :=
    fun labels => (Formula.ofAges_gives _ _ _ labels).bind fun _ _ => .pure trivial
  unfold ageFormula
  dsimp only
  split
  · exact Gives.bind (.pure trivial) fun labels (_ : True) => built labels
  · exact (Settings.ageLabels_gives settings).bind fun labels _ => built labels

theorem setTableSchema_gives (a : Account) {args : Value} (json : args.IsJson) :
    Gives IsSound IsJson (setTableSchema a args : Operation τ Value) := by
  refine (request_gives (SchemaDefinition.read_isJson json)).bind fun r fields => ?_
  have shown : ∀ field ∈ r.fields.map (·.arguments.echo), field.IsJson :=
    List.forall_mem_map.mpr fun f mem => FieldDefinition.arguments_isJson (fields f mem)
  exact (Account.setTableSchema_gives a _ shown _).bind fun _ _ =>
    .pure (isJson_fields ⟨trivial, trivial⟩)

variable [Add τ] [Sub τ] [OfNat τ 0] [LT τ] [DecidableLT τ] [Duration τ]

theorem select_gives (a : Account) (target : Target) (formula : Formula) (extent : Extent)
    (sort : Option (List SortField)) :
    Gives IsSound AreJson (select a target formula extent sort : Operation τ (List Value)) :=
  Account.listRecords_gives a _ _ _

theorem listBases_gives (a : Account) :
    Gives IsSound IsJson (listBases a : Operation τ Value) :=
  (Account.listBases_gives a).bind fun _ json => counted_gives _ json

theorem listTables_gives (a : Account) (args : Value) :
    Gives IsSound IsJson (listTables a args : Operation τ Value) :=
  (read_gives _).bind fun _ _ => (Account.listTables_gives a _).bind fun _ json =>
    counted_gives _ json

theorem tableSchema_gives (a : Account) (args : Value) :
    Gives IsSound IsJson (tableSchema a args : Operation τ Value) :=
  (read_gives _).bind fun _ _ => (Account.tableSchema_gives a _ _ _).bind fun _ schema =>
    .pure schema.toValue

theorem listRecords_gives (settings : SettingsFile) (a : Account) (args : Value) :
    Gives IsSound IsJson (listRecords settings a args : Operation τ Value) :=
  (read_gives _).bind fun _ _ =>
    (ofLogged_gives (leavesOutAttachments_gives settings _)).bind fun _ _ =>
      (Account.listRecords_gives a _ _ _).bind fun _ json => .pure json.isJson

theorem getRecord_gives (a : Account) (args : Value) :
    Gives IsSound IsJson (getRecord a args : Operation τ Value) :=
  (read_gives _).bind fun _ _ => Account.getRecord_gives a _ _ _

theorem createRecord_gives (a : Account) (args : Value) :
    Gives IsSound IsJson (createRecord a args : Operation τ Value) :=
  (read_gives _).bind fun _ _ => Account.createRecord_gives a _ _ _

theorem deleteRecord_gives (a : Account) (args : Value) :
    Gives IsSound IsJson (deleteRecord a args : Operation τ Value) :=
  (read_gives _).bind fun _ _ => (Account.deleteRecord_gives a _ _ _).bind
    fun _ json => .pure (isJson_fields ⟨trivial, json⟩)

theorem queryByAge_gives (settings : SettingsFile) (a : Account) (args : Value) :
    Gives IsSound IsJson (queryByAge settings a args : Operation τ Value) := by
  refine (request_gives (AgeQuery.read_inYears args)).bind fun q years => ?_
  refine (ofLogged_gives (ageFormula_gives settings q)).bind fun formula _ => ?_
  refine (select_gives a _ formula _ _).bind fun records json => found_gives ?_ json
  exact ⟨years.min_isJson, years.max_isJson, trivial⟩

theorem queryByOptions_gives (settings : SettingsFile) (a : Account) (args : Value) :
    Gives IsSound IsJson (queryByOptions settings a args : Operation τ Value) := by
  refine (read_gives _).bind fun q _ => ?_
  refine (ofLogged_gives (Condition.toFormula_gives settings _)).bind fun formula _ => ?_
  refine (select_gives a _ _ _ _).bind fun records json => found_gives ?_ json
  exact ⟨trivial, trivial, isJson_ofTexts _, trivial⟩

theorem smartQuery_gives (settings : SettingsFile) (a : Account) (args : Value) :
    Gives IsSound IsJson (smartQuery settings a args : Operation τ Value) := by
  refine (request_gives (SmartQuery.read_inYears args)).bind fun q years => ?_
  refine (ofLogged_gives (Combination.ofConditions_gives _ settings _)).bind fun formula _ => ?_
  have asked : (Value.list (q.conditions.map (·.arguments.echo))).IsJson :=
    (isJson_list_iff _).mpr (List.forall_mem_map.mpr fun c mem =>
      Condition.arguments_isJson (years c mem))
  refine (select_gives a _ formula _ _).bind fun records json => found_gives ?_ json
  exact ⟨asked, trivial, trivial⟩

theorem createRecords_gives (a : Account) (args : Value) :
    Gives IsSound IsJson (createRecords a args : Operation τ Value) :=
  (read_gives _).bind fun _ _ => (Account.createRecords_gives a _ _ _).bind fun _ json =>
    written_gives json

theorem updateRecords_gives (a : Account) (args : Value) :
    Gives IsSound IsJson (updateRecords a args : Operation τ Value) :=
  (read_gives _).bind fun _ _ => (Account.updateRecords_gives a _ _ _).bind fun _ json =>
    written_gives json

theorem deleteRecords_gives (a : Account) (args : Value) :
    Gives IsSound IsJson (deleteRecords a args : Operation τ Value) :=
  (read_gives _).bind fun _ _ => (Account.deleteRecords_gives a _ _ _).bind fun _ json =>
    deleted_gives json

end Handler

variable {τ : Type} [Add τ] [Sub τ] [OfNat τ 0] [LT τ] [DecidableLT τ] [Duration τ]

/-- Whatever a handler is given, it gives JSON data or a failure that can be told. -/
theorem Tool.handler?_gives (t : Tool) (settings : SettingsFile) (a : Account) {args : Value}
    (json : args.IsJson) {operation : Operation τ Value}
    (h : t.handler? settings a args = some operation) : Gives IsSound IsJson operation := by
  cases t <;> simp only [handler?, Option.some.injEq, reduceCtorEq] at h <;> subst h
  case listBases => exact Handler.listBases_gives a
  case listTables => exact Handler.listTables_gives a args
  case getTableSchema => exact Handler.tableSchema_gives a args
  case listRecords => exact Handler.listRecords_gives settings a args
  case getRecord => exact Handler.getRecord_gives a args
  case createRecord => exact Handler.createRecord_gives a args
  case updateRecord => exact .throw trivial
  case deleteRecord => exact Handler.deleteRecord_gives a args
  case setTableSchema => exact Handler.setTableSchema_gives a json
  case queryByAgeRange => exact Handler.queryByAge_gives settings a args
  case queryMultipleSelect => exact Handler.queryByOptions_gives settings a args
  case smartQuery => exact Handler.smartQuery_gives settings a args
  case batchCreateRecords => exact Handler.createRecords_gives a args
  case batchUpdateRecords => exact Handler.updateRecords_gives a args
  case batchDeleteRecords => exact Handler.deleteRecords_gives a args

end BaseGateway
