import BaseGateway.Proofs.Outcome

/-!
# Reports to clients

The report of a failure that can be told is written as a JSON document, and read back from it with
the message and the code that the failure has (`Refusal.report_read`).
-/

namespace BaseGateway

open Json Value

theorem allExact_texts (texts : List String) : AllExact (texts.map Value.text) := by
  induction texts with
  | nil => trivial
  | cons s rest ih => exact ⟨trivial, ih⟩

namespace ClientReport

/-- The entries of a report: a message and a code first, and what else there is behind them. -/
theorem toValue_eq (r : ClientReport) : ∃ more : Entries, r.toValue =
    .dictionary ((.text "error", .text r.error) :: (.text "code", .text r.code) :: more) := by
  unfold toValue
  dsimp only
  exact ⟨_, rfl⟩

theorem toValue_isExact {r : ClientReport} (h : ∀ n ∈ r.retryAfter, IsExact n.toValue) :
    IsExact r.toValue := by
  obtain ⟨error, code, details, retryAfter⟩ := r
  cases retryAfter with
  | none =>
    match details with
    | none | some [] =>
      have keys : ["error", "code"].Nodup := by decide
      exact isExact_record keys ⟨trivial, trivial⟩
    | some (line :: rest) =>
      have keys : ["error", "code", "details"].Nodup := by decide
      exact isExact_record keys ⟨trivial, trivial, allExact_texts (line :: rest)⟩
  | some n =>
    have wait : IsExact n.toValue := h n rfl
    match details with
    | none | some [] =>
      have keys : ["error", "code", "retryAfter"].Nodup := by decide
      exact isExact_record keys ⟨trivial, trivial, wait⟩
    | some (line :: rest) =>
      have keys : ["error", "code", "details", "retryAfter"].Nodup := by decide
      exact isExact_record keys ⟨trivial, trivial, allExact_texts (line :: rest), wait⟩

end ClientReport

namespace Refusal

theorem report_code (r : Refusal) : r.report.code = r.code := by
  cases r <;> rfl

theorem report_retryAfter {r : Refusal} (h : r.IsReportable) :
    ∀ n ∈ r.report.retryAfter, IsExact n.toValue := by
  cases r with
  | throttled message retryAfter => exact h
  | _ =>
    intro n mem
    cases mem

theorem ofMessage_isReportable (message : String) : (ofMessage message).IsReportable := by
  unfold ofMessage
  dsimp only
  split
  · exact trivial
  · split
    · exact trivial
    · split
      · split <;> exact trivial
      · exact trivial

end Refusal

theorem Failure.toRefusal_isReportable {e : Failure} (h : e.IsReportable) :
    e.toRefusal.IsReportable := by
  cases e with
  | refused r => exact h
  | fault f => exact Refusal.ofMessage_isReportable _

/-- A JSON object with a message and a code. -/
def IsReport (text code : String) : Prop :=
  ∃ entries message, read text = .ok (.dictionary entries) ∧
    Entries.get? entries "error" = some (.text message) ∧
      Entries.get? entries "code" = some (.text code)

/-- What a client is told of a failure is a report with the code of the failure. -/
theorem Refusal.report_read (style : Style) {r : Refusal} (h : r.IsReportable) :
    ∃ text, (document style r.report.toValue).toExcept = .ok text ∧ IsReport text r.code := by
  have exact' := ClientReport.toValue_isExact (report_retryAfter h)
  obtain ⟨more, entries⟩ := r.report.toValue_eq
  refine ⟨_, document_ok style exact'.isJson, (.text "error", .text r.report.error) ::
    (.text "code", .text r.report.code) :: more, r.report.error, ?_, rfl, ?_⟩
  · rw [read_document style exact'.isDocument, entries]
  · rw [← report_code]
    rfl

end BaseGateway
