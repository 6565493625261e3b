import BaseGateway.Proofs.Condition.Truth
import BaseGateway.Proofs.Formula.Choice

/-!
# Values that stand for no option

Values are resolved before a formula asks for them, and a value that stands for no option is
dropped. Where none is left, a test for all of them holds of every record and a test for one of them
of none; wherever one is left, a record with all of them has one of them
(`Formula.ofOptions_all_any`). What is left is told by the values one by one (`mem_resolveFrom`),
and a value is dropped exactly when no option has it as a part, ignoring case
(`resolveValue_eq_nil_iff`).
-/

namespace BaseGateway

theorem Text.hasPart_self (s : List Char) : hasPart s s = true := by
  cases s with
  | nil => rfl
  | cons c s => simp [hasPart]

/-- A value stands for nothing when no option has it as a part, ignoring case. -/
theorem resolveValue_eq_nil_iff {options : List String} {value : String} :
    resolveValue options value = [] ↔
      ∀ option ∈ options, Text.contains (Text.lower option) (Text.lower value) = false := by
  unfold resolveValue
  constructor
  · intro none
    split at none
    · cases none
    · simpa [matchingOptions] using none
  · intro apart
    have exact : options.find? (fun option => Text.lower option == Text.lower value) = none := by
      rw [List.find?_eq_none]
      intro option mem same
      have part := apart option mem
      rw [eq_of_beq same, Text.contains, Text.hasPart_self] at part
      cases part
    rw [exact]
    simpa [matchingOptions] using apart

/-- There are options to choose from, and none of them has one of the values as a part. -/
def Unmatched (options values : List String) : Prop :=
  options ≠ [] ∧ ∀ value ∈ values, ∀ option ∈ options,
    Text.contains (Text.lower option) (Text.lower value) = false

/-- Nothing is left of values exactly when they match no option. -/
theorem resolveOptions_eq_nil_iff {options values : List String} (given : values ≠ []) :
    resolveOptions options values = [] ↔ Unmatched options values := by
  unfold resolveOptions
  cases options with
  | nil => simp [given, Unmatched]
  | cons option options =>
    rw [if_neg (by simp)]
    constructor
    · intro none
      refine ⟨List.cons_ne_nil option options, fun value mem => resolveValue_eq_nil_iff.mp ?_⟩
      rw [List.eq_nil_iff_forall_not_mem]
      intro s stands
      have left := mem_resolveFrom.mpr (.inr ⟨value, mem, stands⟩ : s ∈ [] ∨ _)
      rw [none] at left
      cases left
    · rintro ⟨-, apart⟩
      rw [List.eq_nil_iff_forall_not_mem]
      intro s left
      rcases mem_resolveFrom.mp left with known | ⟨value, mem, stands⟩
      · cases known
      · rw [resolveValue_eq_nil_iff.mpr (apart value mem)] at stands
        cases stands

/-- One of some tests follows from all of them exactly when there are any. -/
theorem Match.all_any_iff (tests : List Formula) :
    (∀ v, (Match.hasAll.formula tests).holds v = true →
      (Match.hasAny.formula tests).holds v = true) ↔ tests ≠ [] := by
  constructor
  · rintro follows rfl
    have one := follows (fun _ => true) (Formula.holds_always _)
    rw [Match.formula, Formula.oneOf, Formula.holds_never] at one
    cases one
  · intro some v all
    rw [Match.holds_formula] at all ⊢
    obtain ⟨t, mem⟩ := List.exists_mem_of_ne_nil tests some
    exact ⟨t, mem, all t mem⟩

namespace Formula

/-- Whatever holds all of some values holds one of them, unless the values are resolved and match no
option: then the test for all of them lets every record pass, and the test for one of them none. -/
theorem ofOptions_all_any {field : Value} {name : FieldName}
    (named : FieldName.ofValue field = .ok name) {values : List String} (given : values ≠ [])
    (options : List String) (fuzzy : Bool) :
    ∃ all any, ofOptions .hasAll field values options fuzzy = .ok all ∧
      ofOptions .hasAny field values options fuzzy = .ok any ∧
      ((∀ v, all.holds v = true → any.holds v = true) ↔
        ¬(fuzzy = true ∧ Unmatched options values)) ∧
      (fuzzy = true ∧ Unmatched options values → all.text = "TRUE()" ∧ any.text = "FALSE()") := by
  set sought := if fuzzy && !values.isEmpty then resolveOptions options values else values
    with resolved
  have empty : sought.map (contains name) = [] ↔ fuzzy = true ∧ Unmatched options values := by
    rw [List.map_eq_nil_iff, resolved]
    cases fuzzy with
    | false => simp [given]
    | true => simp [given, resolveOptions_eq_nil_iff given]
  have built (m : Match) : ofOptions m field values options fuzzy =
      .ok (m.formula (sought.map (contains name))) := by
    unfold ofOptions
    rw [named]
    rfl
  refine ⟨_, _, built .hasAll, built .hasAny, ?_, ?_⟩
  · rw [Match.all_any_iff, ne_eq, empty]
  · intro unmatched
    rw [empty.mpr unmatched]
    exact ⟨rfl, rfl⟩

/-- Two values, one of which is a part of an option in another case. -/
theorem ofOptions_all_any_part :
    ∃ all any,
      ofOptions .hasAll (.text "Tags") ["zzz", "CREAT"] ["Creator", "Model"] true = .ok all ∧
      ofOptions .hasAny (.text "Tags") ["zzz", "CREAT"] ["Creator", "Model"] true = .ok any ∧
      ∀ v, all.holds v = true → any.holds v = true := by
  obtain ⟨all, any, builtAll, builtAny, follows, -⟩ :=
    @ofOptions_all_any (.text "Tags") _ rfl ["zzz", "CREAT"] (List.cons_ne_nil _ _)
      ["Creator", "Model"] true
  refine ⟨all, any, builtAll, builtAny, follows.mpr ?_⟩
  rintro ⟨-, -, apart⟩
  exact absurd (apart "CREAT" (by simp) "Creator" (by simp)) (by decide)

/-- A value that matches no option: every record has all of such values, and none has one. -/
theorem ofOptions_all_without_any :
    ∃ all any, ofOptions .hasAll (.text "Tags") ["zzz"] ["Creator", "Model"] true = .ok all ∧
      ofOptions .hasAny (.text "Tags") ["zzz"] ["Creator", "Model"] true = .ok any ∧
      ∀ v, all.holds v = true ∧ any.holds v = false :=
  ⟨.always, .never, rfl, rfl, fun v => ⟨holds_always v, holds_never v⟩⟩

end Formula

end BaseGateway
