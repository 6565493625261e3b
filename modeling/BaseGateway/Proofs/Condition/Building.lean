import BaseGateway.Condition.Formula
import BaseGateway.Proofs.Settings.InForce

/-!
# Building does not depend on the journal

A warning may be written while a condition is built, but what it is built to, or the failure, is the
same from every journal (`Condition.toFormula_settled`), and so it is for a query of conditions
(`Combination.ofConditions_settled`). Conditions that can be built one by one can be built together
(`Combination.ofConditions_builds`).
-/

namespace BaseGateway

/-- The labels that overlap an interval do not depend on the journal. -/
theorem overlappingLabels_settled (lowest highest : Number) (labels : List String) :
    ∃ outcome, Settled (overlappingLabels lowest highest labels) outcome := by
  induction labels with
  | nil => exact ⟨.ok [], fun j => ⟨j, rfl⟩⟩
  | cons label rest ih =>
    unfold overlappingLabels
    refine Settled.bind ⟨_, Logged.settled_ofFault _⟩ fun bucket => ?_
    refine Settled.bind ⟨_, Logged.settled_ofFault _⟩ fun malformed => ?_
    cases malformed with
    | true => exact Settled.bind ⟨.ok (), fun j => ⟨_, rfl⟩⟩ fun _ => ih
    | false => exact Settled.bind ih fun found => ⟨_, fun j => ⟨j, rfl⟩⟩

theorem Formula.ofAges_settled (field lowest highest : Value) (labels : AgeLabels) :
    ∃ outcome, Settled (Formula.ofAges field lowest highest labels) outcome := by
  unfold Formula.ofAges
  refine Settled.bind ⟨_, Logged.settled_ofRefusal _⟩ fun name => ?_
  refine Settled.bind ⟨_, Logged.settled_ofExcept _⟩ fun low => ?_
  refine Settled.bind ⟨_, Logged.settled_ofExcept _⟩ fun high => ?_
  have overlapping : ∃ outcome, Settled (labels.overlapping low high) outcome := by
    unfold AgeLabels.overlapping
    refine Settled.bind (overlappingLabels_settled low high labels.texts) fun found => ?_
    cases labels.flaw with
    | none => exact ⟨.ok found, fun j => ⟨j, rfl⟩⟩
    | some f => exact ⟨.error (.fault f), fun j => ⟨j, rfl⟩⟩
  exact Settled.bind overlapping fun found => ⟨_, fun j => ⟨j, rfl⟩⟩

/-- What a condition is built to does not depend on the journal. -/
theorem Condition.toFormula_settled (file : SettingsFile) (k : Condition) :
    ∃ outcome, Settled (k.toFormula (Settings.ageLabels file)) outcome := by
  cases k with
  | ageRange c =>
    cases options : c.availableOptions with
    | some texts =>
      simp only [toFormula, options]
      exact Settled.bind ⟨.ok _, fun j => ⟨j, rfl⟩⟩ fun known => Formula.ofAges_settled _ _ _ known
    | none =>
      simp only [toFormula, options]
      exact Settled.bind ⟨_, Settings.ageLabels_settled file⟩ fun known =>
        Formula.ofAges_settled _ _ _ known
  | multipleSelect c => exact ⟨_, Logged.settled_ofRefusal _⟩
  | numberRange c => exact ⟨_, Logged.settled_ofExcept _⟩
  | dateRange c => exact ⟨_, Logged.settled_ofRefusal _⟩
  | customFormula formula => exact ⟨.ok _, fun j => ⟨j, rfl⟩⟩

namespace Combination

/-- What a query of conditions is built to does not depend on the journal. -/
theorem ofConditions_settled (c : Combination) (file : SettingsFile) (ks : List Condition) :
    ∃ outcome, Settled (c.ofConditions (Settings.ageLabels file) ks) outcome := by
  unfold ofConditions
  split
  · exact ⟨_, fun j => ⟨j, rfl⟩⟩
  · refine Settled.bind (Settled.mapM_any (fun k => k.toFormula_settled file) ks) fun formulas => ?_
    exact ⟨.ok (c.combine formulas), fun j => ⟨j, rfl⟩⟩

/-- Conditions that can be built one by one can be built together. -/
theorem ofConditions_builds (c : Combination) (file : SettingsFile) {ks : List Condition}
    (nonempty : ks ≠ [])
    (builds : ∀ k ∈ ks, ∃ j f j', (k.toFormula (Settings.ageLabels file)).run.run j = (.ok f, j'))
    (j : Journal) :
    ∃ f j', (c.ofConditions (Settings.ageLabels file) ks).run.run j = (.ok f, j') := by
  have settled : ∀ k ∈ ks, ∃ f, Settled (k.toFormula (Settings.ageLabels file)) (.ok f) := by
    intro k mem
    obtain ⟨j₁, f, j₂, run⟩ := builds k mem
    exact ⟨f, .of_run (k.toFormula_settled file) run⟩
  obtain ⟨fs, pairs⟩ : ∃ fs, List.Forall₂
      (fun k f => Settled (Condition.toFormula (Settings.ageLabels file) k) (.ok f)) ks fs := by
    clear nonempty builds
    induction ks with
    | nil => exact ⟨[], .nil⟩
    | cons k rest ih =>
      obtain ⟨f, first⟩ := settled k (List.mem_cons_self)
      obtain ⟨fs, others⟩ := ih fun k mem => settled k (List.mem_cons_of_mem _ mem)
      exact ⟨f :: fs, .cons first others⟩
  have whole : Settled (c.ofConditions (Settings.ageLabels file) ks) (.ok (c.combine fs)) := by
    unfold ofConditions
    rw [if_neg (by simpa using nonempty)]
    exact (Settled.mapM pairs).bind_ok fun s => ⟨s, rfl⟩
  obtain ⟨j', run⟩ := whole j
  exact ⟨c.combine fs, j', run⟩

end Combination

end BaseGateway
