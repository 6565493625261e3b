import BaseGateway.Proofs.Client.Asking
import BaseGateway.Proofs.Json.Showing
import BaseGateway.Proofs.Redaction
import BaseGateway.Proofs.Server.Calling

/-!
# What a failed call shows

The text of a failed call shows an ID exactly where a line of its report does as it is written
(`Server.reach_failed_shows`). What the service says and what is unforeseen shows none, up to
characters that redaction and the writer turn into letters; what the caller handed in is repeated
as it was, so that a token in the value of a field comes back in the report
(`Server.call_discloses`).
-/

namespace BaseGateway

open Json Text Value

namespace Redaction

/-- What redaction leaves is not glued to what stands behind it unless it was before. -/
theorem redactChars_clear {s : List Char} (clear : ∀ c ∈ s, isGluing c = false) :
    ∀ c ∈ redactChars s, isGluing c = false := by
  have own : ∀ r ∈ rules, ∀ c ∈ r.standIn, isGluing c = false := fun r mem =>
    have all : rules.all (fun r => r.standIn.all (!isGluing ·)) = true := by decide
    clear_of_all (List.all_eq_true.mp all r mem)
  intro c mem
  rcases mem_applyAll mem with kept | ⟨r, rule, mem⟩
  · exact clear c kept
  · exact own r rule c mem

end Redaction

theorem itemTexts_map (texts : List String) : itemTexts (texts.map .text) = texts := by
  induction texts with
  | nil => rfl
  | cons s rest ih =>
    rw [List.map_cons, itemTexts, ih]
    rfl

theorem texts_record (fields : List (String × Value)) :
    (record fields).texts = fields.flatMap fun (key, v) => key :: v.texts := by
  change entryTexts (fields.map fun (key, v) => (.text key, v)) = _
  induction fields with
  | nil => rfl
  | cons field rest ih =>
    rw [List.map_cons, entryTexts, ih]
    rfl

namespace ClientReport

/-- The lines of a report. -/
def lines (r : ClientReport) : List String := r.error :: r.code :: r.details.getD []

/-- What no name of an entry has, a report has where one of its lines does. -/
theorem any_texts (r : ClientReport) {p : String → Bool}
    (names : ∀ name ∈ ["error", "code", "details", "retryAfter"], p name = false) :
    r.toValue.texts.any p = r.lines.any p := by
  simp only [List.forall_mem_cons] at names
  obtain ⟨error, code, details, retryAfter, -⟩ := names
  have number : ∀ n : Number, n.toValue.texts = [] := fun n => by cases n <;> rfl
  obtain ⟨message, name, found, wait⟩ := r
  unfold toValue lines
  rw [texts_record]
  cases wait with
  | none =>
    match found with
    | none | some [] => simp [Value.texts, error, code]
    | some (line :: rest) =>
      simp [Value.texts, Value.ofTexts, itemTexts, itemTexts_map, error, code, details]
  | some n =>
    match found with
    | none | some [] => simp [Value.texts, number, error, code, retryAfter]
    | some (line :: rest) =>
      simp [Value.texts, Value.ofTexts, itemTexts, itemTexts_map, number, error, code, details,
        retryAfter]

/-- A report that is written shows an ID exactly where one of its lines does. -/
theorem shows_document {k : IdKind} (plain : k.IsPlain) (style : Style) {r : ClientReport}
    (wait : ∀ n ∈ r.retryAfter, IsExact n.toValue) :
    k.shows (document style r.toValue).chars = r.lines.any fun s => k.shows (escaped s.toList) := by
  have short : ∀ name ∈ ["error", "code", "details", "retryAfter"],
      (escaped name.toList).length < 14 := by decide
  rw [Json.shows_document plain style (toValue_isExact wait)]
  exact r.any_texts fun name mem => IdKind.shows_short (short name mem)

end ClientReport

/-- Does the report of a refusal keep its message back, or redact it? -/
def Refusal.IsGuarded : Refusal → Prop
  | .unauthenticated _ | .forbidden _ | .service .. | .unforeseen _ => True
  | _ => False

namespace Refusal

/-- What is said in place of a message that is kept back, and the codes of guarded refusals. -/
def guardedTexts : List String :=
  ["Authentication failed. Please check your API credentials.",
   "You do not have permission to perform this action.",
   "An internal error occurred. Please try again later.",
   "AUTHENTICATION_ERROR", "AUTHORIZATION_ERROR", "AIRTABLE_API_ERROR", "INTERNAL_SERVER_ERROR"]

theorem shows_guardedTexts : ∀ k ∈ idKinds, ∀ s ∈ guardedTexts,
    k.shows (escaped s.toList) = false := by
  decide +kernel

/-- The report of a guarded refusal shows no ID, whatever its message is. -/
theorem IsGuarded.shows_lines {k : IdKind} (kind : k ∈ idKinds) {r : Refusal}
    (guarded : r.IsGuarded) (plainText : kelvin ∉ r.message.toList)
    (clear : ∀ c ∈ r.message.toList, isGluing c = false) :
    ∀ s ∈ r.report.lines, k.shows (escaped s.toList) = false := by
  have fixed := shows_guardedTexts k kind
  simp only [guardedTexts, List.forall_mem_cons] at fixed
  obtain ⟨authentication, permission, internal, code₁, code₂, code₃, code₄, -⟩ := fixed
  have pair {error code : String} (first : k.shows (escaped error.toList) = false)
      (second : k.shows (escaped code.toList) = false) :
      ∀ s ∈ [error, code], k.shows (escaped s.toList) = false :=
    List.forall_mem_cons.mpr ⟨first, List.forall_mem_singleton.mpr second⟩
  cases r with
  | unauthenticated message => exact pair authentication code₁
  | forbidden message => exact pair permission code₂
  | service message reported status =>
    have hidden : k.shows (escaped (Redaction.redact message).toList) = false := by
      have clear' := Redaction.redactChars_clear (s := message.toList) clear
      rw [Redaction.redact, String.toList_ofList, shows_escaped_clear kind clear']
      exact Redaction.redactChars_hides plainText k kind
    exact pair hidden code₃
  | unforeseen message => exact pair internal code₄
  | _ => exact guarded.elim

end Refusal

/-- The report of a failure shows an ID exactly where one of its lines does. -/
theorem Failure.shows_report {k : IdKind} (kind : k ∈ idKinds) {e : Failure}
    (told : e.IsReportable) :
    k.shows (String.ofList (document (.page true) e.toRefusal.report.toValue).chars).toList =
      e.toRefusal.report.lines.any fun line => k.shows (escaped line.toList) := by
  rw [String.toList_ofList]
  exact ClientReport.shows_document (idKinds_isPlain k kind) (.page true)
    (Refusal.report_retryAfter (Failure.toRefusal_isReportable told))

namespace Server

variable {τ : Type} [Add τ] [Sub τ] [OfNat τ 0] [OfNat τ 1] [LT τ] [DecidableLT τ] [Duration τ]

section

variable {s s' last : Server τ} (sound : s.IsSound) {t : Tool} {given args : Entries} {e : Failure}
  {text : String}
include sound

/-- A call whose tool fails ends with the report of the failure. -/
theorem call_fails (json : (dictionary args).IsJson) (taken : t.arguments given = .ok args)
    (performed : (perform t (.dictionary args)).run.run s = (.error e, last)) :
    e.IsReportable ∧ ∃ s', (call t given).run.run s = (.ok (.failed
      (String.ofList (document (.page true) e.toRefusal.report.toValue).chars)), s') := by
  obtain ⟨-, told⟩ := perform_gives sound.entries t json s ⟨rfl, sound.client⟩
  rw [performed] at told
  have exact' := ClientReport.toValue_isExact
    (Refusal.report_retryAfter (Failure.toRefusal_isReportable told))
  obtain ⟨hash, journal, ran⟩ :=
    run_failed json performed (document_ok (.page true) exact'.isJson)
  exact ⟨told, _, (call_run taken s).trans ran⟩

/-- The text of a failed call is the report of what its tool failed with. -/
theorem call_failed (json : (dictionary given).IsJson)
    (fails : (call t given).run.run s = (.ok (.failed text), s')) :
    ∃ args e last, t.arguments given = .ok args ∧
      (perform t (.dictionary args)).run.run s = (.error e, last) ∧ e.IsReportable ∧
      text = String.ofList (document (.page true) e.toRefusal.report.toValue).chars := by
  cases taken : t.arguments given with
  | error f =>
    unfold call at fails
    rw [run_bind, run_ofFault, taken] at fails
    cases fails
  | ok args =>
    have json' := t.arguments_isJson json taken
    rcases performed : (perform t (.dictionary args)).run.run s with ⟨e | v, last⟩
    · obtain ⟨told, s'', ends⟩ := call_fails sound json' taken performed
      obtain ⟨same, -⟩ := Prod.mk.inj (ends.symm.trans fails)
      obtain rfl := ToolOutcome.failed.inj (Except.ok.inj same)
      exact ⟨args, e, last, rfl, performed, told, rfl⟩
    · obtain ⟨-, gives⟩ := perform_gives sound.entries t json' s ⟨rfl, sound.client⟩
      rw [performed] at gives
      obtain ⟨hash, journal, ran⟩ := run_gave json' performed (document_ok (.page true) gives)
      rw [call_run taken, ran] at fails
      cases fails

end

/-- However the server came to be in its state, the text of a failed call shows an ID exactly where
a line of the report does as it is written, which is so wherever the line itself shows one. The text
for a guarded refusal shows none, unless a character of its message turns into a letter when it is
redacted or written. -/
theorem reach_failed_shows {s s' : Server τ} (fresh : s.IsFresh)
    (run : Relation.ReflTransGen Step s s') (t : Tool) {given : Entries}
    (json : (dictionary given).IsJson) {text : String} {s'' : Server τ}
    (fails : (call t given).run.run s' = (.ok (.failed text), s'')) :
    ∃ args e last, t.arguments given = .ok args ∧
      (perform t (.dictionary args)).run.run s' = (.error e, last) ∧
      ∀ k ∈ idKinds,
        (k.shows text.toList =
          e.toRefusal.report.lines.any fun line => k.shows (escaped line.toList)) ∧
        (∀ line ∈ e.toRefusal.report.lines, k.shows line.toList = true →
          k.shows text.toList = true) ∧
        (e.toRefusal.IsGuarded → kelvin ∉ e.toRefusal.message.toList →
          (∀ c ∈ e.toRefusal.message.toList, isGluing c = false) →
            k.shows text.toList = false) := by
  obtain ⟨args, e, last, taken, performed, told, rfl⟩ :=
    call_failed (reach_isSound fresh run) json fails
  refine ⟨args, e, last, taken, performed, fun k kind => ?_⟩
  rw [Failure.shows_report kind told]
  refine ⟨rfl, fun line mem shows => ?_, fun guarded plainText clear => ?_⟩
  · exact List.any_eq_true.mpr ⟨line, mem, shows_escaped (idKinds_isAscii k kind) shows⟩
  · rw [List.any_eq_false]
    intro line mem
    rw [guarded.shows_lines kind plainText clear line mem]
    exact Bool.false_ne_true

/-- Once there is a client, the tool that changes one record fails for want of a definition. -/
theorem perform_updateRecord {s : Server τ} (ready : (Serving.client.run.run s).1.isOk = true)
    (args : Value) : ∃ last, (perform .updateRecord args).run.run s =
      (.error (.fault (.missingName "UpdateRecordInput")), last) := by
  rcases set : (Serving.client : Serving τ _).run.run s with ⟨e | ⟨account, memory⟩, s₁⟩
  · rw [set] at ready
    cases ready
  · refine ⟨{ s₁ with client := some (account, memory) }, ?_⟩
    unfold perform
    rw [if_neg (by decide)]
    unfold handle
    rw [run_bind, set]
    rfl

/-- A server that was not called yet, with a token and a base. -/
def uncalled : Server Float where
  now := 1000
  settings := ⟨"settings.json", .missing⟩
  environment := [("AIRTABLE_PAT", "patABCDEFGHIJKLMN.first"),
    ("AIRTABLE_BASE_ID", "appABCDEFGHIJKLMN")]

/-- What the tool that changes one record fails with is kept back. -/
theorem reach_failed_shows_nothing :
    let given : Entries := [(.text "table", .text "Roster"),
      (.text "record_id", .text "recABCDEFGHIJKLMN"), (.text "fields", .dictionary [])]
    ∃ text s', (call .updateRecord given).run.run uncalled = (.ok (.failed text), s') ∧
      ∀ k ∈ idKinds, k.shows text.toList = false := by
  intro given
  have taken : Tool.updateRecord.arguments given = .ok given := rfl
  have json : (dictionary given).IsJson :=
    ⟨⟨_, rfl⟩, trivial, ⟨_, rfl⟩, trivial, ⟨_, rfl⟩, trivial, trivial⟩
  have fresh : uncalled.IsFresh := ⟨rfl, rfl⟩
  have ready : (Serving.client.run.run uncalled).1.isOk = true := by decide +kernel
  obtain ⟨last, performed⟩ := perform_updateRecord ready (.dictionary given)
  obtain ⟨-, s', fails⟩ := call_fails fresh.isSound json taken performed
  refine ⟨_, s', fails, fun k kind => ?_⟩
  obtain ⟨args, e, last', taken', performed', shown⟩ :=
    reach_failed_shows fresh .refl .updateRecord json fails
  obtain rfl := Except.ok.inj (taken.symm.trans taken')
  obtain ⟨same, -⟩ := Prod.mk.inj (performed.symm.trans performed')
  obtain rfl := Except.error.inj same
  have unforeseen : (Failure.fault (.missingName "UpdateRecordInput")).toRefusal =
      .unforeseen "name 'UpdateRecordInput' is not defined" := rfl
  obtain ⟨-, -, hidden⟩ := shown k kind
  rw [unforeseen] at hidden
  exact hidden trivial (by decide) (clear_of_all (by decide))

/-- The lines that a client is told where a tool fails. -/
def toldLines : Except Failure Value → List String
  | .error e => e.toRefusal.report.lines
  | .ok _ => []

/-- A server with a client that remembers a field with choices. -/
def remembering : Server Float where
  now := 1000
  settings := ⟨"settings.json", .missing⟩
  client :=
    let field : Value := .record [("name", .text "Tags"), ("type", .text "multipleSelects"),
      ("options", .record [("choices", .list [.record [("name", .text "new")]])])]
    some (Account.based, { limiter := { maximum := 5, window := 1 }
                           cache := [⟨"appABCDEFGHIJKLMN", .text "Roster",
                             ⟨.text "Roster", .text "Roster", [field]⟩⟩] })

theorem remembering_isSound : remembering.IsSound where
  maximum := rfl
  entries := Nat.zero_le _
  client := by
    intro account memory known
    obtain ⟨rfl, rfl⟩ := Prod.mk.inj (Option.some.inj known)
    have field : (Value.record [("name", .text "Tags"), ("type", .text "multipleSelects"),
        ("options", .record [("choices", .list [.record [("name", .text "new")]])])]).IsJson :=
      isJson_fields ⟨trivial, trivial, isJson_fields ⟨isJson_fields trivial, trivial⟩⟩
    exact ⟨isJson_count (n := 5) (by decide), List.forall_mem_singleton.mpr
      ⟨trivial, trivial, List.forall_mem_singleton.mpr field⟩⟩

/-- A token that is handed in for a choice comes back in the text of the call. -/
theorem call_discloses :
    let given : Entries := [(.text "table", .text "Roster"),
      (.text "fields", .record [("Tags", .text "patABCDEFGHIJKLMN")])]
    ∃ text s', (call .createRecord given).run.run remembering = (.ok (.failed text), s') ∧
      (exactKind "pat").shows text.toList = true := by
  intro given
  have taken : Tool.createRecord.arguments given = .ok given := rfl
  have json : (dictionary given).IsJson :=
    ⟨⟨_, rfl⟩, trivial, ⟨_, rfl⟩, ⟨⟨_, rfl⟩, trivial, trivial⟩, trivial⟩
  have token : exactKind "pat" ∈ idKinds := .head _
  have told : (toldLines ((perform .createRecord (.dictionary given)).run.run remembering).1).any
      (fun line => (exactKind "pat").shows line.toList) = true := by
    decide +kernel
  rcases performed : (perform .createRecord (.dictionary given)).run.run remembering with
    ⟨e | v, last⟩
  · rw [performed] at told
    obtain ⟨line, mem, shows⟩ := List.any_eq_true.mp told
    obtain ⟨reportable, s', fails⟩ := call_fails remembering_isSound json taken performed
    refine ⟨_, s', fails, ?_⟩
    rw [Failure.shows_report token reportable]
    exact List.any_eq_true.mpr ⟨line, mem, shows_escaped (idKinds_isAscii _ token) shows⟩
  · rw [performed] at told
    cases told

end Server

end BaseGateway
