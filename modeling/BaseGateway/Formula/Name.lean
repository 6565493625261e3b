import BaseGateway.Formula.Basic
import BaseGateway.Refusal
import BaseGateway.Text.Character
import BaseGateway.Value.Access

/-!
# Field names and literals

A field name stands between braces in a formula. A name that holds a brace or a line break is
refused before anything else is done to it; blanks around a name do not count.
-/

namespace BaseGateway

/-- A character that could end the braces around a name early. -/
def isUnsafeInName (c : Char) : Bool := c == '\x7b' || c == '\x7d' || c == '\n' || c == '\r'

theorem Text.mem_of_mem_trimChars {c : Char} {s : List Char} (h : c ∈ trimChars s) : c ∈ s := by
  unfold trimChars at h
  have first := (List.dropWhile_sublist isBlank).mem (List.mem_reverse.mp h)
  exact (List.dropWhile_sublist isBlank).mem (List.mem_reverse.mp first)

/-- A name that is safe between braces. -/
structure FieldName where
  chars : List Char
  safe : ∀ c ∈ chars, isUnsafeInName c = false
  nonempty : chars ≠ []

/-- A text as a field name. -/
def FieldName.ofText (s : String) : Except Refusal FieldName :=
  if unsafeChar : s.toList.any isUnsafeInName then .error (.unsafeName s)
  else if empty : Text.trimChars s.toList = [] then
    .error (.invalidInput "Field name cannot be empty")
  else .ok ⟨Text.trimChars s.toList, fun c h => by
    simp only [List.any_eq_true, not_exists, not_and, Bool.not_eq_true] at unsafeChar
    exact unsafeChar c (Text.mem_of_mem_trimChars h), empty⟩

/-- A value as a field name. -/
def FieldName.ofValue (v : Value) : Except Refusal FieldName :=
  match v with
  | .text s => FieldName.ofText s
  | v => .error (.invalidInput s!"Field name must be a string, got {v.kindName}")

/-- A value as it is written inside a literal. -/
def escapeLiteral (v : Value) : Except Fault String := do
  return String.ofList (Formula.escapeQuotes (← v.display).toList)

end BaseGateway
