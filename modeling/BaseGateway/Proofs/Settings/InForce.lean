import BaseGateway.Proofs.Run
import BaseGateway.Settings.Stored

/-!
# The settings in force

Loading the settings writes at most a warning and gives the same settings whatever the journal
holds. Here they are told without the journal: the settings of a file, and the labels of age buckets
that queries go by.
-/

namespace BaseGateway.Settings

/-- The settings of a file, the defaults where its faults are passed over. -/
def inForce (file : SettingsFile) : Except Fault Entries :=
  match ofFile file with
  | .ok entries => .ok entries
  | .error f => if isSurvivable f then .ok defaults else .error f

theorem load_settled (file : SettingsFile) :
    Settled (load file) (Except.orFault (inForce file)) := by
  intro j
  unfold load inForce
  cases ofFile file with
  | ok entries => exact ⟨j, rfl⟩
  | error f =>
    dsimp only
    split
    · rw [run_bind, Logged.run_note]
      exact ⟨_, rfl⟩
    · exact ⟨j, rfl⟩

/-- The labels of age buckets that the settings of a file name. -/
def labelsInForce (file : SettingsFile) : Except Fault AgeLabels := do
  let ranges := get (← inForce file) "default_age_ranges"
  if ranges.isGiven then return AgeLabels.ofValues (← ranges.parts)
  else return AgeLabels.ofValues (defaultAgeRanges.map .text)

theorem ageLabels_settled (file : SettingsFile) :
    Settled (ageLabels file) (Except.orFault (labelsInForce file)) := by
  intro j
  obtain ⟨j', load⟩ := load_settled file j
  refine ⟨j', ?_⟩
  unfold ageLabels ageRanges labelsInForce
  rw [run_bind, run_bind, load]
  cases inForce file with
  | error f => rfl
  | ok entries =>
    dsimp only [Except.orFault, Except.mapError, bind, Except.bind]
    cases given : (get entries "default_age_ranges").isGiven with
    | false => rfl
    | true =>
      simp only [if_true, Logged.run_ofFault]
      cases (get entries "default_age_ranges").parts <;> rfl

/-- The texts of the labels in force, none where the settings cannot be loaded. -/
def labelTexts (file : SettingsFile) : List String :=
  match labelsInForce file with
  | .ok labels => labels.texts
  | .error _ => []

end BaseGateway.Settings
