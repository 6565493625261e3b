import BaseGateway.Proofs.Settings.Loading
import BaseGateway.Settings.Connection

/-!
# The connection in force

The values of the settings are JSON data, whatever the file of the settings holds
(`Settings.inForce_values`). So the most requests in a second, which come from there, are a number
that can be shown (`Connection.ofSettings_isShort`).
-/

namespace BaseGateway

open Value

namespace Settings

/-- Whatever a file holds, the settings it stands for are JSON data. -/
theorem inForce_values {file : SettingsFile} {entries : Entries} (h : inForce file = .ok entries) :
    ∀ entry ∈ entries, entry.2.IsJson :=
  fun entry mem => ((inForce_documents h).2.2 entry mem).isJson

theorem get_isJson {entries : Entries} (h : ∀ entry ∈ entries, entry.2.IsJson) (name : String) :
    (get entries name).IsJson := by
  unfold get
  cases found : Entries.get? entries name with
  | none => trivial
  | some v => exact Entries.find?_values h found

end Settings

/-- Whatever an integer is made of, it is one that can be shown. -/
theorem Value.asInt_isShort {v : Value} {n : Int} (json : v.IsJson) (h : v.asInt = .ok n) :
    Decimal.IsShort n := by
  unfold asInt at h
  split at h
  · obtain rfl := Except.ok.inj h
    exact json
  · next b =>
    obtain rfl := Except.ok.inj h
    cases b with
    | false => exact isJson_count (n := 0) (by decide)
    | true => exact isJson_count (n := 1) (by decide)
  · split at h
    · next finite =>
      obtain rfl := Except.ok.inj h
      exact Decimal.isShort_truncate finite
    · cases h
    · cases h
  · split at h
    · next read =>
      obtain rfl := Except.ok.inj h
      exact Decimal.isShort_of_readInt read
    · cases h
    · cases h
  · cases h

theorem Connection.ofSettings_isShort {env : Environment} {entries : Entries} {c : Connection}
    (values : ∀ entry ∈ entries, entry.2.IsJson) (h : ofSettings env entries = .ok c) :
    Decimal.IsShort c.maxRequests := by
  unfold ofSettings at h
  dsimp only at h
  obtain ⟨timeout, _, h⟩ := Except.bind_ok h
  obtain ⟨maxRequests, asked, h⟩ := Except.bind_ok h
  obtain rfl := Except.ok.inj h
  exact asInt_isShort (Settings.get_isJson values _) asked

end BaseGateway
