import BaseGateway.Proofs.Intake
import BaseGateway.Request.Basic
import BaseGateway.Text.Quoted

/-!
# What is read is within its bounds

An ID that was read has the form of its kind (`Intake.id_form`), so that it stands for itself in a
path (`HasForm.percentEncode`). A list or a map of fields that was read is as long as its bounds
allow, and a number of records lies between one and a thousand. What may be missing is read where it
is there (`Intake.given_read`).
-/

namespace BaseGateway

/-- The letters of a kind, and fourteen ASCII letters or digits. -/
def HasForm (kind s : String) : Prop :=
  ∃ code : List Char, s.toList = kind.toList ++ code ∧ code.length = 14 ∧
    ∀ c ∈ code, c.isAlphanum = true

theorem HasForm.isAlphanum {kind s : String} (h : HasForm kind s)
    (letters : ∀ c ∈ kind.toList, c.isAlphanum = true) : ∀ c ∈ s.toList, c.isAlphanum = true := by
  obtain ⟨code, same, -, each⟩ := h
  rw [same]
  exact List.forall_mem_append.mpr ⟨letters, each⟩

theorem HasForm.isEmpty {kind s : String} (h : HasForm kind s) : s.isEmpty = false := by
  obtain ⟨code, same, long, -⟩ := h
  by_contra empty
  rw [Bool.not_eq_false, String.isEmpty_iff] at empty
  subst empty
  have short := congrArg List.length same
  simp only [String.toList_empty, List.length_nil, List.length_append] at short
  omega

namespace Text

/-- Letters and digits stand for themselves in a path. -/
theorem percentEncode_isAlphanum {s : String} (h : ∀ c ∈ s.toList, c.isAlphanum = true) :
    percentEncode s = s := by
  have kept : ∀ c ∈ s.toList, percentChar c = [c] := by
    intro c mem
    unfold percentChar isUnreserved
    rw [h c mem]
    rfl
  unfold percentEncode
  rw [List.flatMap_congr kept, List.flatMap_singleton', String.ofList_toList]

end Text

namespace Checked.Every

variable {α : Type} {P Q : α → Prop} {x : Checked α}

theorem and (h : Every P x) (h' : Every Q x) : Every (fun y => P y ∧ Q y) x :=
  fun y same => ⟨h y same, h' y same⟩

end Checked.Every

open Checked

namespace Intake

variable {α : Type} {part : Value → Checked α}

theorem isId_form {kind s : String} (h : isId kind.toList s.toList = true) : HasForm kind s := by
  unfold isId at h
  simp only [Bool.and_eq_true, List.isPrefixOf_iff_prefix, beq_iff_eq, List.all_eq_true] at h
  obtain ⟨⟨⟨code, same⟩, long⟩, each⟩ := h
  rw [← same, List.drop_left] at long each
  exact ⟨code, same.symm, long, each⟩

/-- An ID is read only if it has the form of its kind. -/
theorem id_form (kind : String) (v : Value) : (id kind v).Every (HasForm kind) := by
  refine Every.check (.any _) fun s _ => ?_
  split
  · next form => exact .valid (isId_form form)
  · exact .issue _

theorem recordCount_bounds (v : Value) : (recordCount v).Every fun n => 1 ≤ n ∧ n ≤ 1000 := by
  refine Every.check (.any _) fun n _ => ?_
  split
  · exact .issue _
  · next positive =>
    split
    · exact .issue _
    · next high =>
      have limit : ((Limits.records : Nat) : Int) = 1000 := rfl
      exact .valid (by omega)

theorem items_length (part : Value → Checked α) (vs : List Value) (index : Nat) :
    (items part index vs).Every fun ys => ys.length = vs.length := by
  induction vs generalizing index with
  | nil => exact .valid rfl
  | cons v rest ih =>
    refine Every.seq (Every.map (.any _) fun y _ ys count => ?_) (ih (index + 1))
    rw [List.length_cons, List.length_cons, count]

theorem listOf_length (part : Value → Checked α) (low high : Nat) (v : Value) :
    (listOf part low high v).Every fun ys => low ≤ ys.length ∧ ys.length ≤ high := by
  unfold listOf
  split
  · next vs =>
    dsimp only
    split
    · exact .issue _
    · next few =>
      refine (items_length part vs 0).check fun ys count => ?_
      split
      · exact .issue _
      · next many => exact .valid (by omega)
  · exact .issue _

/-- A map of fields has one field at least and a hundred at most. -/
theorem fieldMap_length (v : Value) :
    (fieldMap v).Every fun fields => 1 ≤ fields.length ∧ fields.length ≤ 100 := by
  refine Every.check (.any _) fun fields _ => ?_
  split
  · exact .issue _
  · next some =>
    split
    · exact .issue _
    · next few =>
      have limit : Limits.fields = 100 := rfl
      have positive : fields.length ≠ 0 := fun none => some (by simpa using none)
      exact .valid (by omega)

/-- What may be missing is read in the same way from any value. -/
theorem given_any {P : α → Prop} (entries : Entries) (l : Label) (h : ∀ v, (part v).Every P) :
    (given entries l part).Every fun o => ∀ x ∈ o, P x :=
  given_every (V := fun _ => True) (fun _ _ => trivial) l fun v _ => h v

/-- What may be missing is read from the value that is there. -/
theorem given_read (entries : Entries) (l : Label) (part : Value → Checked α) :
    (given entries l part).Every fun o => ∀ key v, l.find? entries = some (key, v) →
      v.isNull = false → ∃ x, o = some x ∧ part v = .valid x := by
  intro o same key v found solid
  unfold given withDefault at same
  rw [found] at same
  dsimp only at same
  unfold optional at same
  rw [solid] at same
  cases read : part v with
  | valid x =>
    rw [read] at same
    exact ⟨x, (Checked.valid.inj same).symm, rfl⟩
  | flawed first rest =>
    rw [read] at same
    cases same

end Intake

end BaseGateway
