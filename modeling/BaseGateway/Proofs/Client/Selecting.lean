import Mathlib.Data.Rat.Defs
import BaseGateway.Proofs.Client.Consulting
import BaseGateway.Proofs.Field.Selection

/-!
# Which fields a listing asks for

A listing that leaves fields out looks up the schema of its table, selects fields by it and names
them in the request for every page. The service sends all fields where none is named. So a page asks
for the permitted fields of the table, but for all of them where none is permitted
(`Account.listRecords_requests`).

* the fields that a page names are those that were selected (`Listing.fieldNames_pageQuery`);
* they are selected by the schema that the lookup gives (`Account.listRecords_eq`).
-/

namespace BaseGateway

/-- The names that a query gives for the fields that are to be sent. -/
def Query.fieldNames : Query → List Value
  | .pairs entries => (entries.filter fun entry => entry.1 == "fields[]").map Prod.snd
  | _ => []

namespace Listing

theorem sortParameters_name {index : Nat} {field : Value} {parameters : List (String × Value)}
    (h : sortParameters index field = .ok parameters) :
    ∀ entry ∈ parameters, entry.1 ≠ "fields[]" := by
  unfold sortParameters at h
  obtain ⟨by', -, h⟩ := Except.bind_ok h
  obtain ⟨direction, -, h⟩ := Except.bind_ok h
  obtain rfl := Except.ok.inj h
  intro entry mem same
  have letters := congrArg String.toList same
  rcases List.mem_pair.mp mem with rfl | rfl <;> simp [toString] at letters

/-- Parameters of other names name no fields. -/
theorem filter_others {entries : List (String × Value)}
    (others : ∀ entry ∈ entries, entry.1 ≠ "fields[]") :
    (entries.filter fun entry => entry.1 == "fields[]") = [] := by
  rw [List.filter_eq_nil_iff]
  intro entry mem same
  exact others entry mem (beq_iff_eq.mp same)

theorem filter_optional {α : Type} {name : String} (other : name ≠ "fields[]") (made : α → Value)
    (o : Option α) : ((o.map fun x => (name, made x)).toList.filter fun entry =>
      entry.1 == "fields[]") = [] := by
  apply filter_others
  cases o with
  | none => exact List.forall_mem_nil _
  | some x => exact List.forall_mem_singleton.mpr other

/-- A page names the fields that were selected. -/
theorem fieldNames_pageQuery {l : Listing} {fields : List Value}
    {parameters : List (String × Value)} (h : l.parameters fields = .ok parameters)
    (offset : Value) : (Account.pageQuery parameters offset).fieldNames = fields := by
  unfold Listing.parameters at h
  obtain ⟨sort, sorted, h⟩ := Except.bind_ok h
  obtain rfl := Except.ok.inj h
  have ordered : (sort.flatten.filter fun entry => entry.1 == "fields[]") = [] := by
    apply filter_others
    have each : ∀ entries ∈ sort, ∀ entry ∈ entries, entry.1 ≠ "fields[]" :=
      Except.mapM_each (fun _ _ _ made => sortParameters_name made) sorted
    intro entry mem
    obtain ⟨entries, inSort, inEntries⟩ := List.mem_flatten.mp mem
    exact each entries inSort entry inEntries
  have named : ((fields.map fun field => ("fields[]", field)).filter fun entry =>
      entry.1 == "fields[]") = fields.map fun field => ("fields[]", field) := by
    rw [List.filter_eq_self]
    intro entry mem
    obtain ⟨field, -, rfl⟩ := List.mem_map.mp mem
    rfl
  have last : ((if offset.isGiven then [("offset", offset)] else []).filter fun entry =>
      entry.1 == "fields[]") = [] := by
    split <;> rfl
  unfold Account.pageQuery Query.fieldNames
  simp only [List.filter_append, ordered, named, last,
    filter_optional (by decide : "filterByFormula" ≠ "fields[]"),
    filter_optional (by decide : "maxRecords" ≠ "fields[]"),
    filter_optional (by decide : "pageSize" ≠ "fields[]"),
    filter_optional (by decide : "view" ≠ "fields[]"), List.nil_append, List.append_nil,
    List.map_map]
  exact List.map_id fields

end Listing

/-- The fields that a listing asks for by a schema. -/
def Exclusions.chosen (e : Exclusions) (schema : Schema) : Except Fault (List Value) := do
  let names ← schema.fields.mapM (Value.item · "name")
  if names.isEmpty then return [] else return (← selectFields names [] e none).getD []

/-- What is chosen by a schema asks for the permitted fields in it, or for all where none is. -/
theorem Exclusions.chosen_selects {e : Exclusions} {schema : Schema} {fields : List Value}
    (h : e.chosen schema = .ok fields) :
    ∃ all, schema.fields.mapM (Value.item · "name") = .ok all ∧
      e.Selects all (requestedFields all fields) := by
  unfold chosen at h
  obtain ⟨all, read, h⟩ := Except.bind_ok h
  refine ⟨all, read, ?_⟩
  cases all with
  | nil =>
    obtain rfl := Except.ok.inj h
    exact .of_all (List.forall_mem_nil _)
  | cons name rest =>
    obtain ⟨selected, picked, h⟩ := Except.bind_ok h
    obtain rfl := Except.ok.inj h
    exact selectFields_selects picked

theorem Operation.ofFault_bind {τ α β : Type} (x : Except Fault α) (next : α → Except Fault β) :
    (ofFault (x >>= next) : Operation τ β) = ofFault x >>= fun a => ofFault (next a) := by
  cases x <;> rfl

namespace Account

variable {τ : Type} [Add τ] [Sub τ] [OfNat τ 0] [LT τ] [DecidableLT τ] [Duration τ]
variable (a : Account) {base : String} {named : Option String}

/-- Fields that are left out are chosen from by the schema of the table. -/
theorem selectedFields_eq (table : String) {e : Exclusions} (given : e.isGiven = true) :
    (a.selectedFields table base e : Operation τ (List Value)) =
      a.schemaOf base table >>= fun schema => Operation.ofFault (e.chosen schema) := by
  unfold selectedFields
  rw [given]
  apply bind_congr
  intro schema
  unfold Exclusions.chosen
  rw [Operation.ofFault_bind]
  apply bind_congr
  intro names
  split
  · rfl
  · rw [Operation.ofFault_bind]
    rfl

/-- Does a call ask for the permitted fields in a schema, or for all where none is permitted? -/
def Selects (e : Exclusions) (schema : Schema) (page : Call) : Prop :=
  ∃ all, schema.fields.mapM (Value.item · "name") = .ok all ∧
    e.Selects all (requestedFields all page.query.fieldNames)

/-- The pages that are asked for by a schema. -/
theorem chosen_sends {path : String} {l : Listing} (schema : Schema) :
    Sends (fun _ => True) (Selects l.exclusions schema) 0 (fun _ => True)
      (Operation.ofFault (l.exclusions.chosen schema) >>= a.listPages path l :
        Operation τ (List Value)) := by
  refine (Sends.ofFault fun _ same => same).seq fun fields chosen => ?_
  obtain ⟨all, read, selects⟩ := Exclusions.chosen_selects chosen
  have page (parameters : List (String × Value)) (offset : Value)
      (made : l.parameters fields = .ok parameters) :
      Selects l.exclusions schema (a.callTo "GET" path (pageQuery parameters offset) none) := by
    refine ⟨all, read, ?_⟩
    have named := Listing.fieldNames_pageQuery made offset
    rw [callTo, named]
    exact selects
  exact (listPages_sends a page).mono (Nat.le_refl 0) fun _ _ => trivial

variable (resolved : a.resolveBase named = .ok base)
include resolved

/-- A listing that leaves fields out looks up the schema, chooses fields by it and asks for the
pages. -/
theorem listRecords_eq (table : String) {l : Listing} (free : l.fields = [])
    (given : l.exclusions.isGiven = true) :
    (a.listRecords table named l : Operation τ (List Value)) =
      a.schemaOf base table >>= fun schema => Operation.ofFault (l.exclusions.chosen schema) >>=
        a.listPages (tablePath base table) l := by
  unfold listRecords
  rw [baseFor_bind resolved, free]
  dsimp only
  rw [List.isEmpty_nil, if_pos rfl, a.selectedFields_eq table given, bind_assoc]
  rfl

/-- A listing that leaves fields out sends pages behind the lookup of the schema of its table. Each
page asks for the permitted fields of the table, or for all its fields where none is permitted. -/
theorem listRecords_requests (table : String) {l : Listing} (free : l.fields = [])
    (given : l.exclusions.isGiven = true) (s : Session τ) :
    let lookup := (a.schemaOf base table : Operation τ Schema).run.run s
    let run := (a.listRecords table named l : Operation τ (List Value)).run.run s
    ∃ asked pages, lookup.2.outgoing = s.outgoing ++ asked ∧
      run.2.outgoing = s.outgoing ++ asked ++ pages ∧ (∀ c ∈ asked, c.AsksTables) ∧
      ∀ page ∈ pages, ∃ schema, lookup.1 = .ok schema ∧ Selects l.exclusions schema page := by
  have asksTables : (a.tablesCall base).AsksTables := ⟨rfl, rfl, base, rfl⟩
  obtain ⟨-, ⟨asked, out, within⟩, -⟩ :=
    schemaOf_sends (P := Call.AsksTables) a asksTables table s trivial
  rw [a.listRecords_eq resolved table free given, run_bind]
  rcases looked : (a.schemaOf base table : Operation τ Schema).run.run s with ⟨e | schema, after⟩
  all_goals
    rw [looked] at out
    dsimp only at out ⊢
  · refine ⟨asked, [], out, ?_, within.each, List.forall_mem_nil _⟩
    rw [List.append_nil, out]
  · obtain ⟨-, ⟨pages, out', within'⟩, -⟩ := a.chosen_sends schema after trivial
    refine ⟨asked, pages, out, ?_, within.each, fun page mem => ?_⟩
    · rw [← out]
      exact out'
    · exact ⟨schema, rfl, within'.each page mem⟩

end Account

/-- A session in which the fields of a table are known by their names. -/
def Session.knowing (names : List String) : Session ℚ where
  now := 0
  replies := [.answer 200 "\x7b\x7d"]
  limiter := { maximum := 5, window := 1 }
  cache := [⟨"appABCDEFGHIJKLMN", .text "Gallery", ⟨.text "Gallery", .text "Gallery",
    names.map fun name => .record [("name", .text name)]⟩⟩]

/-- A listing without attachments of a table with a title and a photo. -/
theorem Account.listRecords_requests_gallery :
    let _ : Duration ℚ := ⟨fun _ => ""⟩
    let s := Session.knowing ["Title", "Photo"]
    let l : Listing := { exclusions := { attachments := true } }
    ∀ page ∈ ((based.listRecords "Gallery" none l).run.run s).2.outgoing,
      page.AsksTables ∨ ∃ schema,
        ((based.schemaOf "appABCDEFGHIJKLMN" "Gallery").run.run s).1 = .ok schema ∧
          Selects l.exclusions schema page := by
  intro _ s l
  have resolved : based.resolveBase none = .ok "appABCDEFGHIJKLMN" := rfl
  obtain ⟨asked, pages, -, out, tables, each⟩ :=
    based.listRecords_requests resolved "Gallery" (l := l) rfl rfl s
  intro page mem
  rw [out] at mem
  rcases List.mem_append.mp mem with early | late
  · exact .inl (tables page early)
  · exact .inr (each page late)

/-- Where all fields of a table are left out, a page asks for all of them. -/
theorem Account.listRecords_asks_left_out :
    let _ : Duration ℚ := ⟨fun _ => ""⟩
    let s := Session.knowing ["Photo"]
    let l : Listing := { exclusions := { attachments := true } }
    l.exclusions.permits (.text "Photo") = false ∧
      ∃ page ∈ ((based.listRecords "Gallery" none l).run.run s).2.outgoing,
        ¬page.AsksTables ∧
          .text "Photo" ∈ requestedFields [.text "Photo"] page.query.fieldNames := by
  intro _ s l
  have sent : (((based.listRecords "Gallery" none l).run.run s).2.outgoing.map fun page =>
      (page.query matches .pairs _) && page.query.fieldNames.isEmpty) = [true] := by
    decide +kernel
  obtain ⟨page, out, shape⟩ := List.map_eq_singleton_iff.mp sent
  obtain ⟨paired, none⟩ := Bool.and_eq_true_iff.mp shape
  refine ⟨by decide +kernel, page, out ▸ List.mem_singleton_self page, fun asks => ?_, ?_⟩
  · rw [asks.2.1] at paired
    cases paired
  · rw [requestedFields, if_pos none]
    exact List.mem_singleton_self _

end BaseGateway
