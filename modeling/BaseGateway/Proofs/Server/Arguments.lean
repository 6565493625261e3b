import BaseGateway.Proofs.Value.Json
import BaseGateway.Server.Tool

/-!
# The arguments of a call

Arguments that a tool takes are put together without a fault (`Tool.Takes.arguments`), and what is
put together from JSON data is JSON data (`Tool.arguments_isJson`): what stands in for a missing
argument is, too.
-/

namespace BaseGateway

open Value

/-- The arguments are those of a tool: every one that is needed is there, and no other. -/
structure Tool.Takes (t : Tool) (given : Entries) : Prop where
  known : ∀ entry ∈ given, ∃ p ∈ t.parameters, entry.1.sameKey (.text p.name) = true
  needed : ∀ p ∈ t.parameters, ((Entries.get? given p.name).or p.default?).isSome = true

namespace Tool

/-- What stands in for a missing argument is JSON data. -/
theorem default_isJson (t : Tool) : ∀ p ∈ t.parameters, ∀ v ∈ p.default?, v.IsJson := by
  cases t <;> simp [parameters, Parameter.needed, Parameter.optional, IsJson]

theorem value_isJson {p : Parameter} {given : Entries} (json : (dictionary given).IsJson)
    (fallback : ∀ v ∈ p.default?, v.IsJson) {entry : Value × Value}
    (h : Parameter.value p given = .ok entry) :
    (∃ s, entry.1 = .text s) ∧ entry.2.IsJson := by
  unfold Parameter.value at h
  split at h
  · next v found =>
    obtain rfl := Except.ok.inj h
    refine ⟨⟨_, rfl⟩, ?_⟩
    cases asked : Entries.get? given p.name with
    | none =>
      rw [asked, Option.none_or] at found
      exact fallback v found
    | some w =>
      rw [asked, Option.some_or] at found
      obtain rfl := Option.some.inj found
      exact Entries.find?_values (isJson_values json) asked
  · cases h

/-- The arguments of a call are JSON data where those that are given are. -/
theorem arguments_isJson {t : Tool} {given args : Entries} (json : (dictionary given).IsJson)
    (h : t.arguments given = .ok args) : (dictionary args).IsJson := by
  unfold arguments at h
  dsimp only at h
  split at h
  · cases h
  · obtain ⟨all, each, h⟩ := Except.bind_ok h
    obtain rfl := Except.ok.inj h
    have read := Except.mapM_each
      (S := fun entry : Value × Value => (∃ s, entry.1 = .text s) ∧ entry.2.IsJson)
      (fun p mem _ => value_isJson json (t.default_isJson p mem)) each
    exact (isJson_dictionary_iff _).mpr fun entry mem => read entry (List.mem_of_mem_filter mem)

/-- Where every argument has a value, all of them are put together. -/
theorem values_ok {given : Entries} {ps : List Parameter}
    (h : ∀ p ∈ ps, ((Entries.get? given p.name).or p.default?).isSome = true) :
    ∃ all, ps.mapM (fun p => Parameter.value p given) = .ok all := by
  induction ps with
  | nil => exact ⟨[], rfl⟩
  | cons p rest ih =>
    rw [List.forall_mem_cons] at h
    obtain ⟨v, found⟩ := Option.isSome_iff_exists.mp h.1
    obtain ⟨all, others⟩ := ih h.2
    refine ⟨(.text p.name, v) :: all, ?_⟩
    have first : Parameter.value p given = .ok (.text p.name, v) := by
      rw [Parameter.value, found]
    rw [List.mapM_cons, first, others]
    rfl

/-- Arguments that a tool takes are put together. -/
theorem Takes.arguments {t : Tool} {given : Entries} (h : t.Takes given) :
    ∃ args, t.arguments given = .ok args := by
  obtain ⟨all, values⟩ := values_ok h.needed
  have none : List.find? (fun entry : Value × Value =>
      !t.parameters.any fun p => entry.1.sameKey (.text p.name)) given = none := by
    rw [List.find?_eq_none]
    intro entry mem
    obtain ⟨p, inside, same⟩ := h.known entry mem
    simpa using ⟨p, inside, same⟩
  unfold Tool.arguments
  dsimp only
  rw [none, values]
  exact ⟨_, rfl⟩

end Tool

end BaseGateway
