import BaseGateway.Proofs.Intake
import BaseGateway.Proofs.Outcome
import BaseGateway.Request.Change
import BaseGateway.Request.Query

/-!
# Requests that are shown

Some tools show what they were asked for. Their requests hold what can be shown, whatever JSON data
they were read from: ages lie between nought and a hundred and fifty (`AgeQuery.read_inYears`,
`Condition.read_inYears`), and the options of a field that is described by hand are JSON data
themselves (`SchemaDefinition.read_isJson`). What cannot be read is refused with its issues.
-/

namespace BaseGateway

open Checked Intake

/-- Arguments that cannot be read make a refusal that can be told. -/
theorem Checked.Every.request {α : Type} {Q : α → Prop} {x : Checked α} (h : Every Q x) :
    Outcome Q (Except.orRefused x.request) := by
  cases x with
  | valid a => exact h a rfl
  | flawed first rest => trivial

/-- Ages in years, as they are read. -/
structure AgeBounds.InYears (b : AgeBounds) : Prop where
  low : 0 ≤ b.minAge
  high : b.maxAge ≤ 150

namespace AgeBounds

theorem isJson_age {n : Int} (low : 0 ≤ n) (high : n ≤ 150) : (Value.int n).IsJson := by
  have small : n.toNat < 2 ^ 63 := by omega
  have same : (n.toNat : Int) = n := Int.toNat_of_nonneg low
  rw [← same]
  exact Value.isJson_count small

theorem InYears.min_isJson {b : AgeBounds} (h : b.InYears) : (Value.int b.minAge).IsJson :=
  isJson_age h.low (Int.le_trans b.ordered h.high)

theorem InYears.max_isJson {b : AgeBounds} (h : b.InYears) : (Value.int b.maxAge).IsJson :=
  isJson_age (Int.le_trans h.low b.ordered) h.high

end AgeBounds

/-- Whatever is read with ages is read with ages in years. -/
theorem Intake.withAges_every {α : Type} {Q : α → Prop} {entries : Entries}
    {rest : Checked (AgeBounds → α)} (h : Every (fun build => ∀ b, b.InYears → Q (build b)) rest) :
    Every Q (withAges entries rest) := by
  have age : ∀ l : Label, Every (fun n => 0 ≤ n ∧ n ≤ 150) (required entries l age) :=
    fun l => required_any l (integerIn_every 0 150)
  refine Every.check (P := fun all : Int × Int × (AgeBounds → α) =>
    0 ≤ all.1 ∧ all.2.1 ≤ 150 ∧ ∀ b, b.InYears → Q (all.2.2 b)) ?_ ?_
  · exact Every.seq (Every.seq (Every.map (age .minAge)
      fun low first high second build made => ⟨first.1, second.2, made⟩) (age .maxAge)) h
  rintro ⟨low, high, build⟩ ⟨lowest, highest, made⟩
  dsimp only at lowest highest made ⊢
  unfold AgeBounds.of
  split
  · exact .valid (made _ ⟨lowest, highest⟩)
  · exact .issue _

/-- A query for ages has them in years. -/
theorem AgeQuery.read_inYears (args : Value) : Every (fun q => q.ages.InYears) (read args) :=
  fromDictionary_every _ fun _ _ => withAges_every <|
    .seq_any _ <| .seq_any _ <| .seq_any _ <| .seq_any _ <|
      Every.map (.any _) fun _ _ _ _ _ _ _ years => years

namespace Condition

/-- A condition on ages has them in years. -/
def InYears : Condition → Prop
  | .ageRange c => c.ages.InYears
  | _ => True

theorem readAgeRange_inYears (entries : Entries) : Every InYears (readAgeRange entries) :=
  withAges_every <| .seq_any _ <| .seq_any _ <| Every.map (.any _) fun _ _ _ _ _ years => years

theorem kinds_inYears {name : String} {readKind : Entries → Checked Condition}
    (mem : (name, readKind) ∈ kinds) (entries : Entries) : Every InYears (readKind entries) := by
  simp only [kinds, List.mem_cons, Prod.mk.injEq, List.not_mem_nil, or_false] at mem
  rcases mem with ⟨_, rfl⟩ | ⟨_, rfl⟩ | ⟨_, rfl⟩ | ⟨_, rfl⟩ | ⟨_, rfl⟩
  · exact readAgeRange_inYears entries
  · exact .seq_any _ <| .seq_any _ <| .seq_any _ <| .seq_any _ <| .seq_any _ <|
      Every.map (.any _) fun _ _ _ _ _ _ _ => trivial
  · exact .seq_any _ <| .seq_any _ <| .seq_any _ <| Every.map (.any _) fun _ _ _ _ _ => trivial
  · exact .seq_any _ <| .seq_any _ <| .seq_any _ <| Every.map (.any _) fun _ _ _ _ _ => trivial
  · exact .seq_any _ <| Every.map (.any _) fun _ _ _ => trivial

theorem read_inYears (v : Value) : Every InYears (read v) := by
  unfold read
  split
  · split
    · exact .issue _
    · split
      · next name readKind found =>
        obtain ⟨s, _, inKinds⟩ := Option.bind_eq_some_iff.mp found
        exact (kinds_inYears (List.mem_of_find?_eq_some inKinds) _).under name
      · exact .issue _
  · exact .issue _

/-- The arguments of a condition can be shown. -/
theorem arguments_isJson {c : Condition} (h : c.InYears) : c.arguments.echo.IsJson := by
  have texts : ∀ texts : Option (List String), ((texts.map Value.ofTexts).getD .null).IsJson := by
    intro texts
    cases texts with
    | none => trivial
    | some texts => exact Value.isJson_ofTexts texts
  have number : ∀ x : Option Float, ((x.map Value.float).getD .null).IsJson := by
    intro x
    cases x <;> trivial
  refine Arguments.echo_isJson ?_
  cases c with
  | ageRange c => exact ⟨h.min_isJson, h.max_isJson, trivial, trivial, texts _⟩
  | multipleSelect c =>
    exact ⟨trivial, trivial, trivial, Value.isJson_ofTexts _, texts _, trivial⟩
  | numberRange c => exact ⟨trivial, trivial, number _, number _⟩
  | dateRange c => exact ⟨trivial, trivial, Value.isJson_ofText? _, Value.isJson_ofText? _⟩
  | customFormula formula => exact ⟨trivial, trivial⟩

end Condition

/-- Every condition of a query has its ages in years. -/
theorem SmartQuery.read_inYears (args : Value) :
    Every (fun q => ∀ c ∈ q.conditions, c.InYears) (read args) := by
  refine fromDictionary_every _ fun entries _ => ?_
  refine .seq_any _ <| .seq_any _ <| .seq_any _ <| Every.seq
    (P := fun conditions => ∀ c ∈ conditions, c.InYears)
    (Every.map (.any _) fun _ _ _ years _ _ _ => years) (required_any .conditions fun v => ?_)
  exact listOf_every 1 Limits.conditions fun _ _ w _ => Condition.read_inYears w

namespace FieldDefinition

/-- A definition whose options can be shown. -/
def IsJson (f : FieldDefinition) : Prop := ∀ options ∈ f.options, (Value.dictionary options).IsJson

theorem read_isJson {v : Value} (json : v.IsJson) : Every IsJson (read v) := by
  refine fromDictionary_every _ fun entries same => ?_
  have known : ∀ entry ∈ entries, entry.2.IsJson := Value.isJson_values (same ▸ json)
  refine Every.seq (.seq_any _ <| .seq_any _ <| Every.map (.any _) fun _ _ _ _ _ json => json)
    (given_every known .options fun v json => ?_)
  exact (dictionary_every text v).mono fun entries same => same ▸ json

theorem arguments_isJson {f : FieldDefinition} (h : f.IsJson) : f.arguments.echo.IsJson := by
  have options : ((f.options.map Value.dictionary).getD .null).IsJson := by
    cases given : f.options with
    | none => trivial
    | some options => exact h options given
  exact Arguments.echo_isJson ⟨Value.isJson_ofText? _, trivial, trivial, options⟩

end FieldDefinition

/-- Every field that is described by hand can be shown. -/
theorem SchemaDefinition.read_isJson {args : Value} (json : args.IsJson) :
    Every (fun r => ∀ f ∈ r.fields, f.IsJson) (read args) := by
  refine fromDictionary_every _ fun entries same => ?_
  have known : ∀ entry ∈ entries, entry.2.IsJson := Value.isJson_values (same ▸ json)
  have fields := required_every known .fields fun v json =>
    listOf_every 1 Limits.fields fun vs (list : v = .list vs) w mem =>
      FieldDefinition.read_isJson ((Value.isJson_list_iff vs).mp (list ▸ json) w mem)
  exact Every.seq (Every.map (.any _) fun _ _ _ json => json) fields

end BaseGateway
