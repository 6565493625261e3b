import BaseGateway.Intake.Argument
import BaseGateway.Proofs.Value.Json

/-!
# Valid arguments

A reading that combines parts has a result only when every part has one, and then the result is put
together from those. What every result of the parts has is had by every result of the whole
(`Checked.Every`): of an argument that has to be there, of one that may be missing, of the items of
a list. What is known of the values that are read is told by a property of values.
-/

namespace BaseGateway

namespace Checked

variable {α β : Type} {P : α → Prop} {Q : β → Prop}

/-- Every result of a reading, if there is one, has a property. -/
def Every (P : α → Prop) (x : Checked α) : Prop := ∀ y, x = .valid y → P y

namespace Every

theorem any (x : Checked α) : Every (fun _ => True) x := fun _ _ => trivial

theorem valid {a : α} (h : P a) : Every P (.valid a) := by
  intro y same
  obtain rfl := Checked.valid.inj same
  exact h

theorem issue (message : String) : Every P (Checked.issue message) := fun _ same => by cases same

theorem mono {R : α → Prop} {x : Checked α} (h : Every P x) (weaker : ∀ a, P a → R a) : Every R x :=
  fun y same => weaker y (h y same)

theorem map {f : α → β} {x : Checked α} (h : Every P x) (step : ∀ a, P a → Q (f a)) :
    Every Q (f <$> x) := by
  intro y same
  cases x with
  | valid a =>
    obtain rfl := Checked.valid.inj same
    exact step a (h a rfl)
  | flawed first rest => cases same

/-- The last of several parts is put together with what the earlier ones gave. -/
theorem seq {f : Checked (α → β)} {x : Checked α} (first : Every (fun g => ∀ a, P a → Q (g a)) f)
    (h : Every P x) : Every Q (f <*> x) := by
  intro y same
  cases f with
  | valid g =>
    cases x with
    | valid a =>
      obtain rfl := Checked.valid.inj same
      exact first g rfl a (h a rfl)
    | flawed one rest => cases same
  | flawed one rest => cases same

/-- A part that does not matter. -/
theorem seq_any {f : Checked (α → β)} (x : Checked α) (first : Every (fun g => ∀ a, Q (g a)) f) :
    Every Q (f <*> x) :=
  seq (first.mono fun _ h a (_ : True) => h a) (any x)

theorem check {x : Checked α} {next : α → Checked β} (h : Every P x)
    (step : ∀ a, P a → Every Q (next a)) : Every Q (x.check next) := by
  intro y same
  cases x with
  | valid a => exact step a (h a rfl) y same
  | flawed first rest => cases same

theorem under {x : Checked α} (h : Every P x) (key : String) : Every P (x.under key) := by
  intro y same
  cases x with
  | valid a => exact h y same
  | flawed first rest => cases same

end Every

end Checked

open Checked

namespace Intake

variable {α : Type} {P : α → Prop} {V : Value → Prop} {entries : Entries} {part : Value → Checked α}

theorem find?_all (known : ∀ entry ∈ entries, V entry.2) {l : Label} {key : String} {v : Value}
    (h : l.find? entries = some (key, v)) : V v := by
  unfold Label.find? at h
  split at h
  · next w found =>
    obtain rfl := (Prod.mk.inj (Option.some.inj h)).2
    exact Entries.find?_values known found
  · obtain ⟨w, found, same⟩ := Option.map_eq_some_iff.mp h
    obtain rfl := (Prod.mk.inj same).2
    exact Entries.find?_values known found

theorem required_every (known : ∀ entry ∈ entries, V entry.2) (l : Label)
    (h : ∀ v, V v → Every P (part v)) : Every P (required entries l part) := by
  unfold required
  split
  · next key v found => exact (h v (find?_all known found)).under key
  · exact (Every.issue _).under _

/-- An argument that is read in the same way from any value. -/
theorem required_any (l : Label) (h : ∀ v, Every P (part v)) :
    Every P (required entries l part) :=
  required_every (V := fun _ => True) (fun _ _ => trivial) l fun v _ => h v

theorem given_every (known : ∀ entry ∈ entries, V entry.2) (l : Label)
    (h : ∀ v, V v → Every P (part v)) :
    Every (fun y => ∀ a ∈ y, P a) (given entries l part) := by
  unfold given withDefault
  split
  · next key v found =>
    refine Every.under ?_ key
    unfold optional
    split
    · exact .valid fun a mem => by cases mem
    · refine Every.map (h v (find?_all known found)) fun a given b mem => ?_
      obtain rfl := Option.some.inj mem
      exact given
  · exact .valid fun a mem => by cases mem

theorem items_every {vs : List Value} (index : Nat) (h : ∀ v ∈ vs, Every P (part v)) :
    Every (fun ys => ∀ y ∈ ys, P y) (items part index vs) := by
  induction vs generalizing index with
  | nil => exact .valid (List.forall_mem_nil _)
  | cons v rest ih =>
    rw [List.forall_mem_cons] at h
    refine Every.seq (Every.map (h.1.under _) fun y first ys others => ?_) (ih (index + 1) h.2)
    exact List.forall_mem_cons.mpr ⟨first, others⟩

/-- What a list is read as is read from its items. -/
theorem listOf_every (low high : Nat) {v : Value}
    (h : ∀ vs, v = .list vs → ∀ w ∈ vs, Every P (part w)) :
    Every (fun ys => ∀ y ∈ ys, P y) (listOf part low high v) := by
  unfold listOf
  split
  · next vs =>
    dsimp only
    split
    · exact .issue _
    · refine (items_every 0 (h vs rfl)).check fun ys each => ?_
      split
      · exact .issue _
      · exact .valid each
  · exact .issue _

theorem fromDictionary_every (kind : String) {read : Entries → Checked α} {v : Value}
    (h : ∀ entries, v = .dictionary entries → Every P (read entries)) :
    Every P (fromDictionary kind read v) := by
  unfold fromDictionary
  split
  · exact h _ rfl
  · exact .issue _

/-- A dictionary is read as it is. -/
theorem dictionary_every (key : Value → Checked String) (v : Value) :
    Every (fun entries => v = .dictionary entries) (dictionary key v) := by
  unfold dictionary
  split
  · exact Every.map (.any _) fun _ _ => rfl
  · exact .issue _

/-- A whole number between two bounds lies between them. -/
theorem integerIn_every (low high : Int) (v : Value) :
    Every (fun n => low ≤ n ∧ n ≤ high) (integerIn low high v) := by
  refine Every.check (.any _) fun n _ => ?_
  split
  · exact .issue _
  · split
    · exact .issue _
    · exact .valid (by omega)

end Intake

theorem Arguments.echo_isJson {args : Arguments} (h : args.Forall fun arg => arg.2.IsJson) :
    args.echo.IsJson := by
  refine Value.isJson_record fun field mem => ?_
  obtain ⟨arg, kept, rfl⟩ := List.mem_map.mp mem
  exact List.forall_iff_forall_mem.mp h arg (List.mem_of_mem_filter kept)

end BaseGateway
