import BaseGateway.Condition.Formula
import BaseGateway.Proofs.Formula.Failing
import BaseGateway.Proofs.Outcome
import BaseGateway.Proofs.Settings.InForce

/-!
# Queries fail in ways that can be told

Where the formula of a query cannot be built, from a name that is unsafe to settings that cannot be
loaded, the failure is one that a client can be told of (`Combination.ofConditions_gives`): the
builders refuse arguments or meet faults, and both can be told (`Answers.outcome`).
-/

namespace BaseGateway

variable {α : Type} {Q : α → Prop}

namespace Logged

theorem ofExcept_gives {x : Except Failure α} (h : Outcome Q x) :
    Gives (fun _ => True) Q (ofExcept x) := fun _ _ => ⟨trivial, h⟩

/-- A computation with a settled outcome gives that outcome. -/
theorem settled_gives {x : Logged α} {outcome : Except Failure α} (settled : Settled x outcome)
    (h : Outcome Q outcome) : Gives (fun _ => True) Q x := by
  intro j _
  obtain ⟨j', run⟩ := settled j
  rw [run]
  exact ⟨trivial, h⟩

end Logged

open Logged

theorem Settings.load_gives (file : SettingsFile) :
    Gives (fun _ => True) (fun entries => inForce file = .ok entries) (load file) :=
  settled_gives (load_settled file) (.ofFault fun _ same => same)

theorem Settings.ageLabels_gives (file : SettingsFile) :
    Gives (fun _ => True) (fun _ => True) (ageLabels file) :=
  settled_gives (ageLabels_settled file) (.ofFault_any _)

/-- An argument that is refused can be told, and so can every fault. -/
theorem Answers.outcome {P : Prop} {F : Fault → Prop} {x : Except Failure α}
    (h : Answers P F x) : Outcome (fun _ => True) x := by
  cases x with
  | ok a => exact trivial
  | error e =>
    cases e with
    | fault f => exact trivial
    | refused r =>
      have invalid := h.refuses r rfl
      cases r with
      | throttled message retryAfter => exact invalid.elim
      | _ => exact trivial

theorem Formula.ofAges_gives (field lowest highest : Value) (labels : AgeLabels) :
    Gives (fun _ => True) (fun _ => True) (ofAges field lowest highest labels) :=
  fun j _ => ⟨trivial, (ofAges_answers field lowest highest labels j).outcome⟩

/-- A condition that has no formula fails in a way that can be told. -/
theorem Condition.toFormula_gives (file : SettingsFile) (k : Condition) :
    Gives (fun _ => True) (fun _ => True) (k.toFormula (Settings.ageLabels file)) := by
  cases k with
  | ageRange c =>
    unfold toFormula
    dsimp only
    split
    · exact Gives.bind (.pure trivial) fun known (_ : True) => Formula.ofAges_gives _ _ _ known
    · exact (Settings.ageLabels_gives file).bind fun known _ => Formula.ofAges_gives _ _ _ known
  | multipleSelect c => exact ofExcept_gives (Formula.ofOptions_answers _ _ _ _ _).outcome
  | numberRange c => exact ofExcept_gives (Formula.ofNumbers_answers _ _ _).outcome
  | dateRange c => exact ofExcept_gives (Formula.ofDates_answers _ _ _).outcome
  | customFormula formula => exact .pure trivial

theorem Combination.ofConditions_gives (c : Combination) (file : SettingsFile)
    (ks : List Condition) :
    Gives (fun _ => True) (fun _ => True) (c.ofConditions (Settings.ageLabels file) ks) := by
  unfold ofConditions
  split
  · exact .throw trivial
  · refine Gives.bind (Gives.mapM fun k _ => k.toFormula_gives file) fun _ _ => .pure trivial

end BaseGateway
