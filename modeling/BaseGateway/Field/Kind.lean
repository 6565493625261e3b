import BaseGateway.Value.Access

/-!
# Kinds of fields

What the types of fields have in common, as far as values are concerned.
-/

namespace BaseGateway

inductive FieldKind where
  | singleSelect
  | multipleSelect
  | date
  | number
  | checkbox
  | recordLinks
  | attachments
  | collaborators
  | email
  | url
  | text
  /-- Filled in by a language model. -/
  | generated
  /-- Filled in by the service. -/
  | computed
  | plain
  deriving DecidableEq, Repr

namespace FieldKind

/-- The known types of fields. -/
def table : List (String × FieldKind) :=
  [("singleSelect", .singleSelect), ("multipleSelect", .multipleSelect),
   ("multipleSelects", .multipleSelect), ("date", .date), ("dateTime", .date),
   ("number", .number), ("currency", .number), ("percent", .number), ("rating", .number),
   ("duration", .number), ("checkbox", .checkbox), ("multipleRecordLinks", .recordLinks),
   ("multipleAttachments", .attachments), ("attachment", .attachments),
   ("multipleCollaborators", .collaborators), ("email", .email), ("url", .url),
   ("phoneNumber", .text), ("singleLineText", .text), ("multilineText", .text),
   ("richText", .text), ("aiText", .generated), ("aiImage", .generated), ("formula", .computed),
   ("rollup", .computed), ("count", .computed), ("lookup", .computed),
   ("createdTime", .computed), ("createdBy", .computed), ("lastModifiedTime", .computed),
   ("lastModifiedBy", .computed), ("autoNumber", .computed), ("barcode", .plain),
   ("button", .plain)]

/-- The kind of a type. -/
def ofName? (name : String) : Option FieldKind :=
  (table.find? fun entry => entry.1 == name).map (·.2)

/-- The kind of the type that the description of a field gives; `none` for an unknown one. -/
def ofDescription (field : Value) : Except Fault (Option FieldKind) := do
  match ← field.get "type" with
  | .text name => return ofName? name
  | v =>
    v.requireKey
    return none

end FieldKind

end BaseGateway
