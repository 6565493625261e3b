import BaseGateway.Command.Run
import BaseGateway.Proofs.Run
import BaseGateway.Proofs.Settings.Saving

/-!
# Changing the settings

The settings are saved once all that are given are right, so a command that fails, shows the
settings or changes none leaves their file as it was; any other command sets exactly what it names
(`CommandLine.run_settings`).

* a check of settings leaves their file alone, and either accepts all of them or ends the command
  (`Commanding.Accepts`, `SettingsRequest.entries_accepts`);
* what is saved is in force afterwards (`SettingsRequest.run_save_changes`).
-/

namespace BaseGateway

theorem Ending.failed_ne_exit (f : Failure) (code : Nat) : Ending.failed f ≠ .exit code := by
  intro same
  cases same

namespace Commanding

variable {τ α β : Type}

/-- A computation that gives a certain value or ends the command as unsuccessful, and leaves the
file of the settings as it is. -/
def Accepts (x : Commanding τ α) (a : α) : Prop :=
  ∀ s, (x.run.run s).2.settings = s.settings ∧
    ((x.run.run s).1 = .ok a ∨ (x.run.run s).1 = .error (.exit 1))

theorem Accepts.pure (a : α) : Accepts (pure a : Commanding τ α) a := fun _ => ⟨rfl, .inl rfl⟩

theorem Accepts.say (line : String) : Accepts (say line : Commanding τ Unit) () :=
  fun _ => ⟨rfl, .inl rfl⟩

theorem Accepts.exit (a : α) : Accepts (exit 1 : Commanding τ α) a := fun _ => ⟨rfl, .inr rfl⟩

theorem Accepts.bind {x : Commanding τ α} {next : α → Commanding τ β} {a : α} {b : β}
    (first : Accepts x a) (second : Accepts (next a) b) : Accepts (x >>= next) b := by
  intro s
  obtain ⟨same, outcome⟩ := first s
  rw [run_bind]
  rcases run : x.run.run s with ⟨result, s'⟩
  rw [run] at same outcome
  rcases outcome with rfl | rfl
  · obtain ⟨same', outcome'⟩ := second s'
    exact ⟨same'.trans same, outcome'⟩
  · exact ⟨same, .inr rfl⟩

theorem run_sayAll (lines : List String) (s : Console τ) :
    ((sayAll lines).run.run s).1 = .ok () ∧ ((sayAll lines).run.run s).2.settings = s.settings := by
  induction lines generalizing s with
  | nil => exact ⟨rfl, rfl⟩
  | cons line rest ih => exact ih _

end Commanding

namespace SettingsRequest

open Commanding

/-- An empty base stands for none. -/
def baseEntries : Option String → Entries
  | none | some "" => []
  | some base => [(.text "default_base_id", .text base)]

/-- The entries that a request names, as they are stored: the name of a level is stored in
capitals. -/
def changes (r : SettingsRequest) : Entries :=
  baseEntries r.base ++
    (r.timeout.map fun t => (.text "request_timeout", .float t)).toList ++
    (r.rateLimit.map fun n => (.text "max_requests_per_second", .int n)).toList ++
    (r.logLevel.map fun name => (.text "log_level", .text (Text.upper name))).toList

variable {τ : Type}

theorem accept_accepts (key : String) (v : Value) (notice : String) :
    Accepts (accept key v notice : Commanding τ Entries) [(.text key, v)] :=
  (Accepts.say _).bind (Accepts.pure _)

theorem reject_accepts (reason : String) (entries : Entries) :
    Accepts (reject reason : Commanding τ Entries) entries :=
  (Accepts.say _).bind (Accepts.exit _)

theorem checkBase_accepts (base : Option String) :
    Accepts (checkBase base : Commanding τ Entries) (baseEntries base) := by
  match base with
  | none => exact Accepts.pure _
  | some base =>
    by_cases empty : base = ""
    · subst empty
      exact Accepts.pure _
    · rw [checkBase.eq_3 base empty, baseEntries.eq_3 base empty]
      split
      · exact accept_accepts _ _ _
      · exact reject_accepts _ _

theorem checkTimeout_accepts (timeout : Option Float) :
    Accepts (checkTimeout timeout : Commanding τ Entries)
      (timeout.map fun t => (.text "request_timeout", .float t)).toList := by
  cases timeout with
  | none => exact Accepts.pure _
  | some t => exact accept_accepts _ _ _

theorem checkRateLimit_accepts (rateLimit : Option Int) :
    Accepts (checkRateLimit rateLimit : Commanding τ Entries)
      (rateLimit.map fun n => (.text "max_requests_per_second", .int n)).toList := by
  cases rateLimit with
  | none => exact Accepts.pure _
  | some n =>
    rw [checkRateLimit]
    split
    · exact reject_accepts _ _
    · exact accept_accepts _ _ _

theorem checkLogLevel_accepts (logLevel : Option String) :
    Accepts (checkLogLevel logLevel : Commanding τ Entries)
      (logLevel.map fun name => (.text "log_level", .text (Text.upper name))).toList := by
  cases logLevel with
  | none => exact Accepts.pure _
  | some name =>
    unfold checkLogLevel
    dsimp only
    split
    · exact accept_accepts _ _ _
    · exact reject_accepts _ _

/-- The settings that are named are all right, or nothing comes of them. -/
theorem entries_accepts (r : SettingsRequest) :
    Accepts (r.entries : Commanding τ Entries) r.changes :=
  (checkBase_accepts _).bind <| (checkTimeout_accepts _).bind <| (checkRateLimit_accepts _).bind <|
    (checkLogLevel_accepts _).bind (Accepts.pure _)

/-- The names of the settings that a request can set. -/
def names : List String :=
  ["default_base_id", "request_timeout", "max_requests_per_second", "log_level"]

/-- What a request names can be written under its name. -/
theorem changes_entries {r : SettingsRequest} (short : ∀ n ∈ r.rateLimit, Decimal.IsShort n) :
    ∀ entry ∈ r.changes, (∃ name ∈ names, entry.1 = .text name) ∧ entry.2.IsDocument := by
  have base : ∀ entry ∈ baseEntries r.base,
      (∃ name ∈ names, entry.1 = .text name) ∧ entry.2.IsDocument := by
    unfold baseEntries
    split
    · exact List.forall_mem_nil _
    · exact List.forall_mem_nil _
    · exact List.forall_mem_singleton.mpr ⟨⟨_, by simp [names], rfl⟩, trivial⟩
  intro entry mem
  simp only [changes, List.mem_append, Option.mem_toList, Option.map_eq_some_iff] at mem
  rcases mem with ((mem | ⟨t, -, rfl⟩) | ⟨n, given, rfl⟩) | ⟨level, -, rfl⟩
  · exact base entry mem
  · exact ⟨⟨_, by simp [names], rfl⟩, trivial⟩
  · exact ⟨⟨_, by simp [names], rfl⟩, short n given⟩
  · exact ⟨⟨_, by simp [names], rfl⟩, trivial⟩

theorem changes_public {r : SettingsRequest} (short : ∀ n ∈ r.rateLimit, Decimal.IsShort n) :
    ∀ entry ∈ r.changes, Settings.isPublicKey entry.1 = true := by
  have all : ∀ name ∈ names, Settings.isPublicKey (.text name) = true := by decide +kernel
  intro entry mem
  obtain ⟨⟨name, known, named⟩, -⟩ := changes_entries short entry mem
  rw [named]
  exact all name known

theorem run_ofLogged {α : Type} (x : Logged α) (s : Console τ) :
    (Commanding.ofLogged x).run.run s = ((x.run.run s.journal).1.mapError .failed,
      { s with journal := (x.run.run s.journal).2 }) := by
  rfl

/-- Saving puts what is written in place of the file, and fails where the writing does. -/
theorem run_save (config : Entries) (s : Console τ) :
    ((save config).run.run s).2.settings =
        { s.settings with content := (Settings.save config s.settings).content } ∧
      ((save config).run.run s).1 = match (Settings.save config s.settings).fault with
        | some f => .error (.failed (.fault f))
        | none => .ok () := by
  unfold save
  simp only [run_bind, run_get, run_modify, run_ofLogged, true_and]
  unfold Settings.Saved.outcome
  cases (Settings.save config s.settings).fault with
  | none => rfl
  | some f => rfl

/-- The changes of a request are saved and then in force over the settings from before that can be
written, or saving fails and the file stays as it is. -/
theorem run_save_changes {r : SettingsRequest} (short : ∀ n ∈ r.rateLimit, Decimal.IsShort n)
    {before : Entries} {s last : Console τ} {result : Except Ending Unit}
    (forced : Settings.inForce s.settings = .ok before)
    (ran : (save (Entries.override before r.changes)).run.run s = (result, last)) :
    (∃ f, result = .error (.failed f) ∧ last.settings = s.settings) ∨
      result = .ok () ∧ Settings.load last.settings =
        pure (Entries.override (Settings.publicEntries before) r.changes) := by
  have values := fun entry mem => (changes_entries short entry mem).2
  have changed := Settings.save_changes forced (changes_public short) values
  obtain ⟨content, outcome⟩ := run_save (Entries.override before r.changes) s
  rw [ran] at content outcome
  generalize Settings.save (Entries.override before r.changes) s.settings = saved
    at changed content outcome
  rcases changed with ⟨f, fault, kept⟩ | ⟨fault, loads⟩
  · rw [fault] at outcome
    rw [kept] at content
    exact .inl ⟨_, outcome, content⟩
  · rw [fault] at outcome
    refine .inr ⟨outcome, ?_⟩
    rw [content]
    exact loads

/-- The file stays as it is where a request fails, shows the settings or names none. Where it does
not, what it names is in force afterwards, over the settings from before that can be written. -/
theorem run_outcome {r : SettingsRequest} (short : ∀ n ∈ r.rateLimit, Decimal.IsShort n)
    (s : Console τ) :
    ((r.run.run.run s).2.settings = s.settings ∧
      ((∃ e, (r.run.run.run s).1 = .error e ∧ e ≠ .exit 0) ∨
        (r.run.run.run s).1 = .ok () ∧ (r.shown = true ∨ r.changes = []))) ∨
    (r.run.run.run s).1 = .ok () ∧ r.shown = false ∧ r.changes ≠ [] ∧
      ∃ before, Settings.inForce s.settings = .ok before ∧
        Settings.load (r.run.run.run s).2.settings =
          pure (Entries.override (Settings.publicEntries before) r.changes) := by
  obtain ⟨j, loaded⟩ := Settings.load_settled s.settings s.journal
  have first : (Commanding.ofLogged (Settings.load s.settings)).run.run s =
      ((Except.orFault (Settings.inForce s.settings)).mapError .failed,
        { s with journal := j }) := by
    rw [run_ofLogged, loaded]
  unfold SettingsRequest.run
  simp only [run_bind, run_get, first]
  cases forced : Settings.inForce s.settings with
  | error f => exact .inl ⟨rfl, .inl ⟨_, rfl, Ending.failed_ne_exit _ 0⟩⟩
  | ok before =>
    simp only [Except.orFault, Except.mapError]
    cases shown : r.shown with
    | true =>
      simp only [if_true, run_bind]
      cases (Json.document (.page false) (.dictionary before)).toExcept with
      | error f => exact .inl ⟨rfl, .inl ⟨_, rfl, Ending.failed_ne_exit _ 0⟩⟩
      | ok text => exact .inl ⟨rfl, .inr ⟨rfl, .inl trivial⟩⟩
    | false =>
      simp only [Bool.false_eq_true, if_false, run_bind]
      obtain ⟨same, outcome⟩ := entries_accepts r { s with journal := j }
      rcases run : r.entries.run.run { s with journal := j } with ⟨result, s'⟩
      rw [run] at same outcome
      dsimp only at same outcome
      rcases outcome with rfl | rfl
      · dsimp only
        cases none : r.changes with
        | nil =>
          obtain ⟨told, same'⟩ := Commanding.run_sayAll usage s'
          exact .inl ⟨same'.trans same, .inr ⟨told, .inr rfl⟩⟩
        | cons entry rest =>
          rw [List.isEmpty_cons, if_neg Bool.false_ne_true, ← none, run_bind]
          rcases saved : (save (Entries.override before r.changes)).run.run s' with ⟨result, last⟩
          rcases run_save_changes short (same ▸ forced) saved with ⟨f, rfl, kept⟩ | ⟨rfl, loads⟩
          · exact .inl ⟨kept.trans same, .inl ⟨_, rfl, Ending.failed_ne_exit _ 0⟩⟩
          · obtain ⟨told, same'⟩ := Commanding.run_sayAll ["", "💾 Configuration saved!",
              "⚠️  Note: AIRTABLE_BASE_ID in the environment takes precedence."] last
            refine .inr ⟨told, trivial, none ▸ List.cons_ne_nil _ _, before, rfl, ?_⟩
            rw [same']
            exact loads
      · refine .inl ⟨same, .inl ⟨_, rfl, fun success => ?_⟩⟩
        cases success

end SettingsRequest

namespace Command

/-- What is read for a request can be stored. -/
theorem readSettings_short {words : List String} {c : Command} (h : readSettings words = .ok c) :
    ∃ r, c = .settings r ∧ ∀ n ∈ r.rateLimit, Decimal.IsShort n := by
  unfold readSettings at h
  obtain ⟨g, _, h⟩ := Except.bind_ok h
  obtain ⟨timeout, _, h⟩ := Except.bind_ok h
  obtain ⟨rateLimit, read, h⟩ := Except.bind_ok h
  unfold withoutWords at h
  split at h
  · obtain rfl := Except.ok.inj h
    refine ⟨_, rfl, fun n given => ?_⟩
    obtain rfl : rateLimit = some n := given
    unfold readValue at read
    split at read
    · cases read
    · next word _ =>
      split at read
      · next m found =>
        obtain rfl := Option.some.inj (Except.ok.inj read)
        unfold readInt? at found
        cases number : Decimal.Lenient.readInt word with
        | error problem =>
          rw [number] at found
          cases found
        | ok k =>
          rw [number] at found
          obtain rfl := Option.some.inj found
          exact Decimal.Lenient.isShort_of_readInt number
      · cases read
  · cases h

section

variable {τ : Type} [Add τ] [Sub τ] [OfNat τ 0] [OfNat τ 1] [LT τ] [DecidableLT τ] [Duration τ]

/-- A command for the settings does what its request does, and starts no server. -/
theorem settings_run (r : SettingsRequest) (s : Console τ) :
    (Command.settings r).run.run.run s =
      ((r.run.run.run s).1.map fun _ => none, (r.run.run.run s).2) := by
  change (r.run >>= fun _ => pure none).run.run s = _
  rw [run_bind]
  rcases r.run.run.run s with ⟨_ | _, s'⟩ <;> rfl

end

end Command

/-- Does a command line end with success? -/
def Conclusion.isSuccess : Conclusion → Bool
  | .exit 0 => true
  | _ => false

theorem Conclusion.eq_of_isSuccess {c : Conclusion} (h : c.isSuccess = true) : c = .exit 0 := by
  unfold isSuccess at h
  split at h
  · rfl
  · cases h

namespace CommandLine

variable {τ : Type} [Add τ] [Sub τ] [OfNat τ 0] [OfNat τ 1] [LT τ] [DecidableLT τ] [Duration τ]

/-- Letting every message through leaves the file of the settings alone. -/
theorem perform_command (verbose : Bool) (c : Except UsageError Command) (start : Console τ) :
    ∃ s : Console τ, s.settings = start.settings ∧
      (perform (.command verbose c)).run.run start =
        (match c with
          | .ok c => c.run
          | .error e => reportUnusable e : Commanding τ (Option Transport)).run.run s := by
  cases verbose with
  | true => exact ⟨(setVerbose.run.run start).2, rfl, rfl⟩
  | false => exact ⟨start, rfl, rfl⟩

/-- A line for the settings that cannot be read, fails, shows the settings or names none leaves
their file as it was. After any other the settings in force are those from before without what is
not to be written, with exactly the named ones in their place. -/
theorem run_settings {args words : List String} {verbose : Bool}
    (line : read args = .command verbose (Command.readSettings words)) (start : Console τ) :
    let (ended, last) := run args start
    match Command.readSettings words with
    | .error _ => last.settings = start.settings
    | .ok (.settings r) =>
      (ended ≠ .exit 0 ∨ r.shown = true ∨ r.changes = [] → last.settings = start.settings) ∧
      (ended = .exit 0 → r.shown = false → r.changes ≠ [] →
        ∃ before, Settled (Settings.load start.settings) (.ok before) ∧
          Settings.load last.settings =
            pure (Entries.override (Settings.publicEntries before) r.changes))
    | .ok _ => False := by
  obtain ⟨s, same, run⟩ := perform_command verbose (Command.readSettings words) start
  unfold CommandLine.run
  rw [line, run]
  cases request : Command.readSettings words with
  | error e => exact same
  | ok c =>
    obtain ⟨r, rfl, short⟩ := Command.readSettings_short request
    have outcome := SettingsRequest.run_outcome short s
    rw [same] at outcome
    dsimp only
    rw [Command.settings_run]
    rcases last : r.run.run.run s with ⟨result, s'⟩
    rw [last] at outcome
    dsimp only at outcome ⊢
    rcases outcome with ⟨kept, ended⟩ | ⟨rfl, shown, named, before, forced, loads⟩
    · rcases ended with ⟨e, rfl, other⟩ | ⟨rfl, reason⟩
      · cases e with
        | exit code =>
          refine ⟨fun _ => kept, fun success => ?_⟩
          obtain rfl := Conclusion.exit.inj success
          exact absurd rfl other
        | failed f =>
          refine ⟨fun _ => kept, fun success => ?_⟩
          cases success
      · refine ⟨fun _ => kept, fun _ shown named => ?_⟩
        rcases reason with reason | reason
        · rw [shown] at reason
          cases reason
        · exact absurd reason named
    · refine ⟨fun reason => ?_, fun _ _ _ => ⟨before, ?_, loads⟩⟩
      · rcases reason with failed | reason | reason
        · exact absurd rfl failed
        · rw [shown] at reason
          cases reason
        · exact absurd reason named
      · have settled := Settings.load_settled start.settings
        rw [forced] at settled
        exact settled

/-- A line that sets the limit and no base. -/
def limitLine : List String := ["--verbose", "config", "--base-id", "", "--rate-limit=3"]

/-- A console with a setting that is kept and one that is not. -/
def limitConsole : Console Nat where
  now := 0
  settings := ⟨"config.json", .text "\x7b\"theme\": 0.5, \"my_token\": 1\x7d"⟩
  machine := ⟨.other, "/home", "python"⟩

/-- The line leaves the new limit among the settings that were in force before. -/
theorem run_settings_limit :
    let _ : Duration Nat := ⟨fun _ => ""⟩
    let run := run limitLine limitConsole
    read limitLine = .command true (Command.readSettings (limitLine.drop 2)) ∧
      ∃ before, Settled (Settings.load limitConsole.settings) (.ok before) ∧
        Settings.load run.2.settings = pure (Entries.override (Settings.publicEntries before)
          [(.text "max_requests_per_second", .int 3)]) := by
  let _ : Duration Nat := ⟨fun _ => ""⟩
  have line : read limitLine = .command true (Command.readSettings (limitLine.drop 2)) := by
    have global : Switch.read switches false limitLine =
        .ok ⟨[("--verbose", "")], "config" :: limitLine.drop 2⟩ := by decide +kernel
    unfold read
    rw [global]
    rfl
  have request : Command.readSettings (limitLine.drop 2) =
      .ok (.settings { base := some "", rateLimit := some 3 }) := by
    have given : Switch.readOrHelp Command.settingsSwitches true (limitLine.drop 2) =
        .ok ⟨[("--base-id", ""), ("--rate-limit", "3")], []⟩ := by decide +kernel
    unfold Command.readSettings
    rw [given]
    rfl
  have ended : (run limitLine limitConsole).1 = .exit 0 :=
    Conclusion.eq_of_isSuccess (by decide +kernel)
  have told := run_settings line limitConsole
  rw [request] at told
  exact ⟨line, told.2 ended rfl (List.cons_ne_nil _ _)⟩

end CommandLine

end BaseGateway
