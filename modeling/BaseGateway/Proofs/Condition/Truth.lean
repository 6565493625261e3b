import BaseGateway.Proofs.Condition.Building
import BaseGateway.Proofs.Condition.Meaning

/-!
# When a query holds

A truth value for each test settles the truth of a formula, and apart from formulas it settles which
conditions hold. The two agree: the formula that is built for generated conditions holds where all
of them or one of them does, as they are combined (`Combination.built_holds`).

* the sentinels are neutral for the shapes that they stand in for (`holds_oneOf`, `holds_allOf`);
* a sentinel that a combination drops is neutral for it (`Combination.holds_joined`).
-/

namespace BaseGateway

namespace Formula

/-- What the logical functions make of the truth of their arguments. -/
def connective (function : List Char) : Option (List Bool → Bool) :=
  if function == "AND".toList then some (·.all id)
  else if function == "OR".toList then some (·.any id)
  else if function == "NOT".toList then some fun truths => !truths.all id
  else if function == "TRUE".toList then some fun _ => true
  else if function == "FALSE".toList then some fun _ => false
  else none

mutual

/-- The truth of a formula, given that of every test. All that is not a logical function is a
test. -/
def holds (v : Formula → Bool) : Formula → Bool
  | .call function arguments =>
    match connective function with
    | some join => join (truths v arguments)
    | none => v (.call function arguments)
  | f => v f

def truths (v : Formula → Bool) : List Formula → List Bool
  | [] => []
  | f :: rest => holds v f :: truths v rest

end

variable (v : Formula → Bool)

theorem truths_eq (fs : List Formula) : truths v fs = fs.map (holds v) := by
  induction fs with
  | nil => rfl
  | cons f rest ih => rw [truths, ih, List.map_cons]

theorem holds_call {function : List Char} {join : List Bool → Bool}
    (h : connective function = some join) (fs : List Formula) :
    holds v (.call function fs) = join (fs.map (holds v)) := by
  rw [holds, h, truths_eq]

theorem holds_all (fs : List Formula) : holds v (.all fs) = fs.all (holds v) := by
  rw [all, holds_call v rfl, List.all_map, Function.id_comp]

theorem holds_any (fs : List Formula) : holds v (.any fs) = fs.any (holds v) := by
  rw [any, holds_call v rfl, List.any_map, Function.id_comp]

theorem holds_not (f : Formula) : holds v (.not f) = !holds v f := by
  rw [not, holds_call v rfl, List.map_singleton, List.all_cons, List.all_nil, Bool.and_true, id]

theorem holds_always : holds v .always = true := by
  rw [always, holds_call v rfl]

theorem holds_never : holds v .never = false := by
  rw [never, holds_call v rfl]

theorem holds_oneOf (fs : List Formula) : holds v (.oneOf fs) = fs.any (holds v) := by
  match fs with
  | [] => exact holds_never v
  | [f] => rw [oneOf, List.any_cons, List.any_nil, Bool.or_false]
  | f :: g :: rest => exact holds_any v _

theorem holds_allOf (fs : List Formula) : holds v (.allOf fs) = fs.all (holds v) := by
  match fs with
  | [] => exact holds_always v
  | [f] => rw [allOf, List.all_cons, List.all_nil, Bool.and_true]
  | f :: g :: rest => exact holds_all v _

end Formula

open Formula

/-- What a match asks of the tests for its values. -/
def Match.Holds (m : Match) (v : Formula → Bool) (tests : List Formula) : Prop :=
  match m with
  | .hasAny => ∃ t ∈ tests, v t = true
  | .hasAll => ∀ t ∈ tests, v t = true
  | .hasNone => ∀ t ∈ tests, v t = false

theorem Match.holds_formula (m : Match) (v : Formula → Bool) (fs : List Formula) :
    (m.formula fs).holds v = true ↔ m.Holds (Formula.holds v) fs := by
  cases m with
  | hasAny => rw [Match.formula, holds_oneOf, List.any_eq_true, Match.Holds]
  | hasAll =>
    cases fs with
    | nil => simp [Match.formula, Match.Holds, holds_always]
    | cons f rest =>
      rw [Match.formula, holds_all, List.all_eq_true, Match.Holds]
      simp
  | hasNone =>
    cases fs with
    | nil => simp [Match.formula, Match.Holds, holds_always]
    | cons f rest =>
      rw [Match.formula, holds_not, holds_oneOf, Bool.not_eq_true', List.any_eq_false, Match.Holds]
      · simp
      · simp

/-- A bound that is not given asks for nothing. -/
theorem forall_mem_bound {α : Type} {P : Formula → Prop} (bound : Option α) (test : α → Formula) :
    (∀ t ∈ (bound.map test).toList, P t) ↔ ∀ x ∈ bound, P (test x) := by
  cases bound <;> simp

namespace Condition

/-- Does a condition hold, given the truth of every test? -/
def Holds (v : Formula → Bool) (inForce : List String) (k : Condition) : Prop :=
  match k with
  | .ageRange c => ∃ label ∈ c.labels inForce, v (.bucket k.name label) = true
  | .multipleSelect c =>
    match c.matchType with
    | .hasAny => ∃ option ∈ c.options, v (.found k.name option) = true
    | .hasAll => ∀ option ∈ c.options, v (.found k.name option) = true
    | .hasNone => ¬∃ option ∈ c.options, v (.found k.name option) = true
  | .numberRange c =>
    (∀ x ∈ c.lowest, v (.limit k.name .atLeast x) = true) ∧
      ∀ x ∈ c.highest, v (.limit k.name .atMost x) = true
  | .dateRange c =>
    (∀ date ∈ DateCondition.given c.startDate, v (.dated k.name "IS_AFTER" date) = true) ∧
      ∀ date ∈ DateCondition.given c.endDate, v (.dated k.name "IS_BEFORE" date) = true
  | .customFormula formula => v (.verbatim formula.toList) = true

/-- The tests of a condition are no logical functions. -/
theorem holds_leaf (v : Formula → Bool) (k : Condition) (inForce : List String) :
    ∀ leaf ∈ k.leaves inForce, leaf.holds v = v leaf := by
  refine k.forall_leaves inForce (fun _ => rfl) (fun _ => rfl) (fun _ _ => rfl) ?_
  intro function mem date
  rcases List.mem_cons.mp mem with rfl | mem
  · rfl
  · rw [List.mem_singleton.mp mem]
    rfl

/-- The tree of a generated condition holds where the condition does. -/
theorem holds_tree (v : Formula → Bool) {k : Condition} (generated : k.isGenerated = true)
    (inForce : List String) : (k.tree inForce).holds v = true ↔ k.Holds v inForce := by
  have leaf := k.holds_leaf v inForce
  cases k with
  | ageRange c =>
    rw [tree, holds_oneOf, List.any_eq_true]
    simp only [leaves, List.mem_map, exists_exists_and_eq_and]
    exact Iff.rfl
  | multipleSelect c =>
    rw [tree, Match.holds_formula, Holds]
    simp only [leaves]
    cases c.matchType with
    | hasAny =>
      simp only [Match.Holds, List.mem_map, exists_exists_and_eq_and]
      exact Iff.rfl
    | hasAll =>
      simp only [Match.Holds, List.forall_mem_map]
      exact Iff.rfl
    | hasNone =>
      simp only [Match.Holds, List.forall_mem_map, not_exists, not_and, Bool.not_eq_true]
      exact Iff.rfl
  | numberRange c =>
    rw [tree, holds_allOf, List.all_eq_true, leaves, List.forall_mem_append]
    simp only [forall_mem_bound]
    exact Iff.rfl
  | dateRange c =>
    rw [tree, holds_allOf, List.all_eq_true, leaves, List.forall_mem_append]
    simp only [forall_mem_bound]
    exact Iff.rfl
  | customFormula formula => cases generated

end Condition

namespace Combination

/-- Do conditions hold as they are combined? -/
def Holds (v : Formula → Bool) (inForce : List String) (c : Combination) (ks : List Condition) :
    Prop :=
  match c with
  | .and => ∀ k ∈ ks, k.Holds v inForce
  | .or => ∃ k ∈ ks, k.Holds v inForce

/-- A sentinel that is dropped changes nothing. -/
theorem holds_joined (v : Formula → Bool) (c : Combination) (trees : List Formula) :
    (c.joined trees).holds v =
      match c with
      | .and => trees.all (Formula.holds v)
      | .or => trees.any (Formula.holds v) := by
  cases c with
  | and =>
    rw [joined, holds_allOf, List.all_filter]
    refine List.all_congr rfl fun t => ?_
    cases bare : t.isBareCall "TRUE".toList with
    | false => rfl
    | true =>
      rw [isBareCall_iff.mp bare]
      exact (holds_always v).symm
  | or =>
    rw [joined, holds_oneOf, List.any_filter]
    refine List.any_congr rfl fun t => ?_
    cases bare : t.isBareCall "FALSE".toList with
    | false => rfl
    | true =>
      rw [isBareCall_iff.mp bare]
      exact (holds_never v).symm

/-- The tree of a query holds where its conditions do. -/
theorem holds_joined_trees (v : Formula → Bool) (c : Combination) {ks : List Condition}
    (generated : ∀ k ∈ ks, k.isGenerated = true) (inForce : List String) :
    (c.joined (ks.map (Condition.tree inForce))).holds v = true ↔ c.Holds v inForce ks := by
  rw [holds_joined]
  cases c with
  | and =>
    dsimp only
    rw [List.all_map, List.all_eq_true]
    exact forall₂_congr fun k mem => Condition.holds_tree v (generated k mem) inForce
  | or =>
    dsimp only
    rw [List.any_map, List.any_eq_true]
    exact exists_congr fun k => and_congr_right fun mem =>
      Condition.holds_tree v (generated k mem) inForce

end Combination

namespace Combination

open Grammar

/-- The sentinels are read as what they are for, and generated conditions that can be built are
built to a formula that holds where they do as they are combined. -/
theorem built_holds (c : Combination) (file : SettingsFile) (ks : List Condition)
    (nonempty : ks ≠ []) (generated : ∀ k ∈ ks, k.isGenerated = true)
    (builds : ∀ k ∈ ks, ∃ j f j', (k.toFormula (Settings.ageLabels file)).run.run j = (.ok f, j'))
    (j : Journal) :
    (∀ v t, (Reading "TRUE()".toList t → t.holds v = true) ∧
      (Reading "FALSE()".toList t → t.holds v = false)) ∧
    ∃ f j' tree, (c.ofConditions (Settings.ageLabels file) ks).run.run j = (.ok f, j') ∧
      (∀ t, Reading f.text.toList t ↔ t = tree) ∧
      ∀ v, tree.holds v = true ↔ c.Holds v (Settings.labelTexts file) ks := by
  refine ⟨fun v t => ⟨fun reading => ?_, fun reading => ?_⟩, ?_⟩
  · rw [(reading_iff wellFormed_always t).mp reading, holds_always]
  · rw [(reading_iff wellFormed_never t).mp reading, holds_never]
  · obtain ⟨f, j', run⟩ := c.ofConditions_builds file nonempty builds j
    obtain ⟨_, writable, rfl⟩ := ofConditions_ok run
    have wellFormed : ∀ t ∈ ks.map (Condition.tree (Settings.labelTexts file)), WellFormed t :=
      List.forall_mem_map.mpr fun k mem => (writable k mem).tree_wellFormed (generated k mem) _
    refine ⟨_, j', _, run, fun t => ?_, fun v => c.holds_joined_trees v generated _⟩
    rw [Formula.text, String.toList_ofList, c.combine_eq_joined wellFormed]
    exact reading_iff (c.wellFormed_joined wellFormed) t

/-- A query of a test for none of two options, a bound, and no bound at all. -/
theorem built_holds_mixed :
    ∃ f j' tree,
      (Combination.or.ofConditions (Settings.ageLabels ⟨"config.json", .missing⟩)
        [.multipleSelect ⟨"Tags", .hasNone, ["a", "b"], none, false⟩,
         .numberRange ⟨"Rating", some 3, none⟩, .dateRange ⟨"Due", none, some ""⟩]).run.run
        ⟨.info, []⟩ = (.ok f, j') ∧
      (∀ t, Reading f.text.toList t ↔ t = tree) ∧
      ∀ v, tree.holds v = true ↔
        Combination.or.Holds v (Settings.labelTexts ⟨"config.json", .missing⟩)
          [.multipleSelect ⟨"Tags", .hasNone, ["a", "b"], none, false⟩,
           .numberRange ⟨"Rating", some 3, none⟩, .dateRange ⟨"Due", none, some ""⟩] := by
  refine (built_holds .or ⟨"config.json", .missing⟩ _ (List.cons_ne_nil _ _) ?_ ?_
    ⟨.info, []⟩).2
  · simp [Condition.isGenerated]
  · simp only [List.forall_mem_cons]
    exact ⟨⟨⟨.info, []⟩, _, _, rfl⟩, ⟨⟨.info, []⟩, _, _, rfl⟩, ⟨⟨.info, []⟩, _, _, rfl⟩,
      List.forall_mem_nil _⟩

end Combination

end BaseGateway
