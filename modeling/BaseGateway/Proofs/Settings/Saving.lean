import BaseGateway.Proofs.Json.Printed
import BaseGateway.Proofs.Settings.Loading

/-!
# Settings that are saved and loaded

Saving writes the entries under public names and nothing else, and what is written is read back as
it was: after settings are saved, those in force are the defaults overridden by these entries
(`Settings.load_save`).

* the entries under public names are those that the test lets through (`safeEntries_ok_iff`);
* a file with saved settings is loaded as what was saved (`load_saved`), and entries that begin with
  the keys of the defaults stand for themselves (`override_public`);
* changes to the settings in force are saved whole or not at all (`save_changes`).
-/

namespace BaseGateway.Settings

open Value

/-- The words of which a name of a secret holds one. -/
def secretWords : List String := ["token", "pat", "secret", "api_key", "apikey"]

/-- A name that settings are written under: it does not begin with an underscore, and in small
letters it holds no word for a secret. -/
def IsPublic (name : String) : Prop :=
  ¬"_".toList <+: name.toList ∧ ∀ word ∈ secretWords, ¬word.toList <:+: (Text.lower name).toList

instance (name : String) : Decidable (IsPublic name) := inferInstanceAs (Decidable (_ ∧ _))

/-- Only texts are names. -/
def isPublicKey : Value → Bool
  | .text name => decide (IsPublic name)
  | _ => false

/-- The entries under public names. -/
def publicEntries (config : Entries) : Entries := config.filter fun entry => isPublicKey entry.1

theorem isSecretName_iff {name : String} : isSecretName name = true ↔
    ∃ word ∈ secretWords, word.toList <:+: (Text.lower name).toList := by
  simp only [isSecretName, List.any_eq_true, Text.contains_iff]
  rfl

/-- The test lets public names through. -/
theorem isKept_text (name : String) : isKept (.text name) = .ok (isPublicKey (.text name)) := by
  rw [isKept, isPublicKey, Except.ok.injEq, Bool.eq_iff_iff, decide_eq_true_iff, Bool.and_eq_true,
    Bool.not_eq_true', Bool.not_eq_true', ← Bool.not_eq_true, ← Bool.not_eq_true,
    String.startsWith_string_iff, isSecretName_iff, IsPublic]
  simp

/-- Equal keys are both public or both not. -/
theorem isPublicKey_alike (old key : Value) (h : old.sameKey key = true) :
    isPublicKey old = isPublicKey key := by
  cases old <;> cases key <;> first
    | rfl
    | cases h
    | rw [eq_of_beq h]

theorem isKept_agrees (key : Value) (kept : Bool) (h : isKept key = .ok kept) :
    kept = isPublicKey key := by
  cases key with
  | text name =>
    rw [isKept_text] at h
    exact (Except.ok.inj h).symm
  | _ => cases h

section

variable {config entries : Entries} {file : SettingsFile}

theorem safeEntries_ok_iff : safeEntries config = .ok entries ↔
    (∀ entry ∈ config, ∃ name, entry.1 = .text name) ∧ entries = publicEntries config := by
  have agrees : ∀ (entry : Value × Value) kept, isKept entry.1 = .ok kept →
      kept = isPublicKey entry.1 := fun entry => isKept_agrees entry.1
  have tested (entry : Value × Value) : isKept entry.1 = .ok (isPublicKey entry.1) ↔
      ∃ name, entry.1 = .text name := by
    cases entry.1 with
    | text name => exact iff_of_true (isKept_text name) ⟨name, rfl⟩
    | _ => simp [isKept]
  have run : safeEntries config = .ok entries ↔ _ := Except.filterM_ok_iff agrees
  simp only [tested] at run
  exact run

/-- Entries under public names that make a document are written as one, and the journal is told of
it. -/
theorem save_eq (kept : safeEntries config = .ok entries) (json : IsJson (.dictionary entries))
    (usable : file.content ≠ .directory) :
    save config file =
      { content := .text (String.ofList (Json.document (.page false) (.dictionary entries)).chars)
        notes := [⟨.info, savedNotice file⟩] } := by
  have written : (Json.document (.page false) (.dictionary entries)).fault = none :=
    Json.write_fault _ 0 json
  unfold save
  rw [kept]
  dsimp only
  split
  · next taken => exact absurd taken usable
  · rw [written]
    rfl

/-- A document of settings is read back. -/
theorem ofText_document (told : IsDocument (.dictionary entries)) :
    ofText (String.ofList (Json.document (.page false) (.dictionary entries)).chars) =
      .ok (Entries.override defaults entries) := by
  unfold ofText
  rw [String.toList_ofList, Json.plainLineEnds_document _ told.isJson, Json.read_document _ told]
  rfl

/-- A file with saved settings is loaded without a warning. -/
theorem load_saved (kept : safeEntries config = .ok entries)
    (told : IsDocument (.dictionary entries)) (usable : file.content ≠ .directory) :
    load { file with content := (save config file).content } =
      pure (Entries.override defaults entries) := by
  rw [save_eq kept told.isJson usable]
  unfold load ofFile
  dsimp only
  rw [ofText_document told]

/-- The names of the defaults are public, so that they stay in their places. -/
theorem keys_public (begins : defaults.map (·.1) <+: config.map (·.1)) :
    defaults.map (·.1) <+: (publicEntries config).map (·.1) := by
  have all : (defaults.map (·.1)).filter isPublicKey = defaults.map (·.1) :=
    List.filter_eq_self.mpr (by decide +kernel)
  have both := begins.filter isPublicKey
  rw [all, List.filter_map] at both
  exact both

/-- What is left of the settings in force when they are saved stands for itself. -/
theorem override_public (begins : defaults.map (·.1) <+: config.map (·.1))
    (differ : config.Differ) :
    Entries.override defaults (publicEntries config) = publicEntries config := by
  have same : ∀ entry ∈ defaults, entry.1.sameKey entry.1 = true := by decide
  exact Entries.override_eq same (keys_public begins) (differ.filter _)

/-- Changes to the settings in force are saved without a fault, and then these settings, without
those under names that are not public, are in force with the changes; or nothing is written. -/
theorem save_changes {before changes : Entries} (forced : inForce file = .ok before)
    (named : ∀ entry ∈ changes, isPublicKey entry.1 = true)
    (values : ∀ entry ∈ changes, entry.2.IsDocument) :
    let saved := save (Entries.override before changes) file
    (∃ f, saved.fault = some f ∧ saved.content = file.content) ∨
      saved.fault = none ∧ load { file with content := saved.content } =
        pure (Entries.override (publicEntries before) changes) := by
  intro saved
  obtain ⟨differ, begins, documents⟩ := inForce_documents forced
  cases kept : safeEntries (Entries.override before changes) with
  | error f =>
    have stopped : saved = { content := file.content, fault := some f } := by
      unfold saved save
      rw [kept]
    exact .inl ⟨f, by rw [stopped], by rw [stopped]⟩
  | ok entries =>
    by_cases taken : file.content = .directory
    · have stopped : saved =
          { content := .directory, fault := some (.isDirectory file.path) } := by
        unfold saved save
        rw [kept]
        dsimp only
        rw [taken]
      exact .inl ⟨_, by rw [stopped], by rw [stopped, taken]⟩
    · obtain ⟨texts, rfl⟩ := safeEntries_ok_iff.mp kept
      have differ' := Entries.override_differ differ changes
      have begins' := begins.trans (Entries.keys_override before changes)
      have told : IsDocument (.dictionary (Entries.override before changes)) :=
        (isDocument_dictionary_iff _).mpr ⟨differ', fun entry mem =>
          ⟨texts entry mem, Entries.override_values values documents entry mem⟩⟩
      have told' : IsDocument (.dictionary (publicEntries (Entries.override before changes))) :=
        told.filter _
      have same : publicEntries (Entries.override before changes) =
          Entries.override (publicEntries before) changes :=
        Entries.filter_override isPublicKey_alike named before
      refine .inr ⟨by unfold saved; rw [save_eq kept told'.isJson taken], ?_⟩
      rw [← same, ← override_public begins' differ']
      exact load_saved kept told' taken

end

/-- After settings are saved, those in force are the defaults overridden by exactly the entries
whose names do not begin with an underscore and could not stand for a secret. -/
theorem load_save {config : Entries} (told : IsDocument (.dictionary config)) {file : SettingsFile}
    (usable : file.content ≠ .directory) :
    (save config file).fault = none ∧
      load { file with content := (save config file).content } =
        pure (Entries.override defaults (publicEntries config)) := by
  have texts : ∀ entry ∈ config, ∃ name, entry.1 = .text name :=
    fun entry mem => (((isDocument_dictionary_iff config).mp told).2 entry mem).1
  have kept := safeEntries_ok_iff.mpr ⟨texts, rfl⟩
  have told' : IsDocument (.dictionary (publicEntries config)) := told.filter _
  exact ⟨by rw [save_eq kept told'.isJson usable], load_saved kept told' usable⟩

/-- Of three settings that are saved in place of a broken file one is in force. -/
theorem load_save_timeout :
    let timeout : Value × Value := (.text "request_timeout", .float 2.5)
    let config : Entries :=
      [timeout, (.text "airtable_pat", .text "patX"), (.text "_internal", .int 1)]
    let file : SettingsFile := { path := "config.json", content := .text "broken" }
    IsDocument (.dictionary config) ∧ file.content ≠ .directory ∧
      (save config file).fault = none ∧
      load { file with content := (save config file).content } =
        pure (Entries.override defaults [timeout]) := by
  intro timeout config file
  have one : IsDocument (.int 1) := isJson_count (n := 1) (by decide)
  have differ : config.Differ := by
    unfold Entries.Differ
    decide
  have told : IsDocument (.dictionary config) :=
    ⟨differ, ⟨_, rfl⟩, trivial, ⟨_, rfl⟩, trivial, ⟨_, rfl⟩, one, trivial⟩
  have usable : file.content ≠ .directory := by decide
  have kept : publicEntries config = [timeout] := by rfl
  exact ⟨told, usable, kept ▸ load_save told usable⟩

end BaseGateway.Settings
