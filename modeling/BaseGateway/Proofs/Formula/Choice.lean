import Mathlib.Data.List.Induction
import Mathlib.Data.List.Nodup
import BaseGateway.Formula.Choice

/-!
# What values stand for

Values are resolved one after the other, and whatever they stand for is collected once, in the order
in which it is met. The laws of that collection are told over any options (`resolveOptions_lawful`):

* nothing is collected twice, and nothing but options that the values stand for;
* more values add what is new at the end;
* where no two options are the same but for case, what is collected stands for itself.

An option that is named exactly stands for the first option of that name ignoring case, which need
not be the option itself (`resolveOptions_named`, `resolveOptions_misses`).
-/

namespace BaseGateway

theorem addNew_append (known a b : List String) :
    addNew known (a ++ b) = addNew (addNew known a) b := by
  simp [addNew]

theorem addNew_snoc (known new : List String) (s : String) :
    addNew known (new ++ [s]) =
      if s ∈ addNew known new then addNew known new else addNew known new ++ [s] := by
  rw [addNew_append]
  simp [addNew]

theorem mem_addNew {known new : List String} {s : String} :
    s ∈ addNew known new ↔ s ∈ known ∨ s ∈ new := by
  induction new using List.reverseRecOn with
  | nil => simp [addNew]
  | append_singleton new t ih =>
    rw [addNew_snoc]
    split
    · next there =>
      rw [ih, List.mem_append, List.mem_singleton, ← or_assoc, ← ih]
      constructor
      · exact .inl
      · rintro (old | rfl)
        · exact old
        · exact there
    · rw [List.mem_append, ih, List.mem_append, or_assoc]

/-- What is known stays in front, and of the rest only what is not known is added. -/
theorem addNew_eq (known new : List String) :
    addNew known new = known ++ (addNew [] new).filter (· ∉ known) := by
  induction new using List.reverseRecOn with
  | nil => simp [addNew]
  | append_singleton new s ih =>
    rw [addNew_snoc, addNew_snoc]
    by_cases met : s ∈ new
    · rw [if_pos (mem_addNew.mpr (.inr met)), if_pos (mem_addNew.mpr (.inr met)), ih]
    · have fresh : s ∉ addNew [] new := by simp [mem_addNew, met]
      rw [if_neg fresh, List.filter_append, ← List.append_assoc, ← ih]
      by_cases old : s ∈ known
      · simp [mem_addNew, old]
      · simp [mem_addNew, old, met]

theorem nodup_addNew {known : List String} (apart : known.Nodup) (new : List String) :
    (addNew known new).Nodup := by
  induction new using List.reverseRecOn with
  | nil => exact apart
  | append_singleton new s ih =>
    rw [addNew_snoc]
    split
    · exact ih
    · next fresh => exact ih.append (List.nodup_singleton s) (by simpa using fresh)

/-- Things that are all different are added as they are. -/
theorem addNew_nil_of_nodup {new : List String} (apart : new.Nodup) : addNew [] new = new := by
  induction new using List.reverseRecOn with
  | nil => rfl
  | append_singleton new s ih =>
    have fresh : s ∉ new := by
      intro met
      exact List.disjoint_of_nodup_append apart met (List.mem_singleton_self s)
    rw [addNew_snoc, ih (List.Nodup.of_append_left apart), if_neg fresh]

theorem resolveFrom_eq (options known values : List String) :
    resolveFrom options known values = addNew known (values.flatMap (resolveValue options)) := by
  unfold resolveFrom
  induction values generalizing known with
  | nil => rfl
  | cons value values ih => rw [List.foldl_cons, ih, List.flatMap_cons, addNew_append]

theorem resolveOptions_eq {options : List String} (given : options ≠ []) (values : List String) :
    resolveOptions options values = addNew [] (values.flatMap (resolveValue options)) := by
  rw [resolveOptions, if_neg (by simpa using given), resolveFrom_eq]

/-- What values stand for is what each of them stands for. -/
theorem mem_resolveFrom {options known values : List String} {s : String} :
    s ∈ resolveFrom options known values ↔
      s ∈ known ∨ ∃ value ∈ values, s ∈ resolveValue options value := by
  rw [resolveFrom_eq, mem_addNew, List.mem_flatMap]

/-- The first of the options that are a value but for its case. -/
def IsFirstAlike (options : List String) (value s : String) : Prop :=
  ∃ before after, options = before ++ s :: after ∧ Text.lower s = Text.lower value ∧
    ∀ t ∈ before, Text.lower t ≠ Text.lower value

/-- An option that a value is a part of, where the value is no option itself, ignoring case. -/
def IsPartOnly (options : List String) (value s : String) : Prop :=
  (∀ t ∈ options, Text.lower t ≠ Text.lower value) ∧ s ∈ options ∧
    Text.contains (Text.lower s) (Text.lower value) = true

theorem IsFirstAlike.mem {options : List String} {value s : String}
    (first : IsFirstAlike options value s) : s ∈ options := by
  obtain ⟨before, after, rfl, -⟩ := first
  simp

theorem find?_alike_iff {options : List String} {value s : String} :
    options.find? (fun option => Text.lower option == Text.lower value) = some s ↔
      IsFirstAlike options value s := by
  rw [List.find?_eq_some_iff_append, IsFirstAlike]
  simp only [beq_iff_eq, Bool.not_eq_true', beq_eq_false_iff_ne]
  grind

/-- A value stands for the first option that it is but for its case; a value that is no option, for
every option that it is a part of. -/
theorem mem_resolveValue {options : List String} {value s : String} :
    s ∈ resolveValue options value ↔
      IsFirstAlike options value s ∨ IsPartOnly options value s := by
  unfold resolveValue
  split
  · next option found =>
    have first := find?_alike_iff.mp found
    constructor
    · intro only
      rw [List.mem_singleton.mp only]
      exact .inl first
    · rintro (also | ⟨none, -⟩)
      · have same := found.symm.trans (find?_alike_iff.mpr also)
        simpa using (Option.some.inj same).symm
      · obtain ⟨before, after, split, alike, -⟩ := first
        exact absurd alike (none option (by simp [split]))
  · next none =>
    have apart : ∀ t ∈ options, Text.lower t ≠ Text.lower value := by
      simpa using none
    rw [matchingOptions, List.mem_filter]
    constructor
    · rintro ⟨mem, part⟩
      exact .inr ⟨apart, mem, part⟩
    · rintro (first | ⟨-, mem, part⟩)
      · obtain ⟨before, after, split, alike, -⟩ := first
        exact absurd alike (apart s (by simp [split]))
      · exact ⟨mem, part⟩

theorem mem_resolveOptions {options values : List String} (given : options ≠ []) {s : String} :
    s ∈ resolveOptions options values ↔
      ∃ value ∈ values, IsFirstAlike options value s ∨ IsPartOnly options value s := by
  rw [resolveOptions_eq given, mem_addNew, List.mem_flatMap]
  simp [mem_resolveValue]

/-- Where no two options are the same but for case, an option stands for itself. -/
theorem resolveValue_self {options : List String} (apart : (options.map Text.lower).Nodup)
    {s : String} (mem : s ∈ options) : resolveValue options s = [s] := by
  obtain ⟨before, after, rfl⟩ := List.append_of_mem mem
  have first : IsFirstAlike (before ++ s :: after) s s := by
    refine ⟨before, after, rfl, rfl, fun t early alike => ?_⟩
    rw [List.map_append] at apart
    refine List.disjoint_of_nodup_append apart (List.mem_map_of_mem early) ?_
    rw [alike]
    exact List.mem_map_of_mem List.mem_cons_self
  rw [resolveValue, find?_alike_iff.mpr first]

theorem flatMap_resolveValue_self {options : List String} (apart : (options.map Text.lower).Nodup)
    {values : List String} (known : ∀ s ∈ values, s ∈ options) :
    values.flatMap (resolveValue options) = values := by
  induction values with
  | nil => rfl
  | cons s values ih =>
    rw [List.forall_mem_cons] at known
    rw [List.flatMap_cons, resolveValue_self apart known.1, ih known.2, List.singleton_append]

/-- What values stand for among some options: each once, nothing else, what later values add behind
what earlier ones gave, and all of it for good where options differ in more than case. -/
theorem resolveOptions_lawful {options : List String} (given : options ≠ []) (v w : List String) :
    (resolveOptions options v).Nodup ∧
    (∀ s, s ∈ resolveOptions options v ↔
      ∃ value ∈ v, IsFirstAlike options value s ∨ IsPartOnly options value s) ∧
    (∀ s ∈ resolveOptions options v, s ∈ options) ∧
    resolveOptions options (v ++ w) =
      resolveOptions options v ++
        (resolveOptions options w).filter (· ∉ resolveOptions options v) ∧
    ((options.map Text.lower).Nodup →
      resolveOptions options (resolveOptions options v) = resolveOptions options v) := by
  have once : (resolveOptions options v).Nodup := by
    rw [resolveOptions_eq given]
    exact nodup_addNew List.nodup_nil _
  have known : ∀ s ∈ resolveOptions options v, s ∈ options := by
    intro s stands
    obtain ⟨value, -, first | ⟨-, mem, -⟩⟩ := (mem_resolveOptions given).mp stands
    · exact first.mem
    · exact mem
  refine ⟨once, fun s => mem_resolveOptions given, known, ?_, fun apart => ?_⟩
  · rw [resolveOptions_eq given, resolveOptions_eq given v, resolveOptions_eq given w,
      List.flatMap_append, addNew_append, addNew_eq]
  · rw [resolveOptions_eq given, flatMap_resolveValue_self apart known, addNew_nil_of_nodup once]

/-- Options that are named in another case or in part, and one of them named twice. -/
theorem resolveOptions_lawful_podcast :
    let options := ["UGC Creator", "Creator", "DSLR Podcast Setup", "Podcast Host"]
    let found := resolveOptions options ["podcast host", "PODCAST"]
    options ≠ [] ∧ (options.map Text.lower).Nodup ∧ found.Nodup ∧ "DSLR Podcast Setup" ∈ found ∧
      resolveOptions options (["podcast host", "PODCAST"] ++ ["creator", "host"]) =
        found ++ (resolveOptions options ["creator", "host"]).filter (· ∉ found) ∧
      resolveOptions options found = found := by
  intro options found
  have given : options ≠ [] := List.cons_ne_nil _ _
  have apart : (options.map Text.lower).Nodup := by decide
  have part : IsPartOnly options "PODCAST" "DSLR Podcast Setup" :=
    ⟨by decide, by decide, by decide⟩
  obtain ⟨once, stands, -, later, again⟩ :=
    resolveOptions_lawful given ["podcast host", "PODCAST"] ["creator", "host"]
  exact ⟨given, apart, once, (stands _).mpr ⟨"PODCAST", by simp, .inr part⟩, later, again apart⟩

/-- An option that is named exactly stands for the first option of its name ignoring case. It is
found itself where it is that first one, and otherwise only where a value that is no option is a
part of it. -/
theorem resolveOptions_named {options values : List String} {value : String}
    (mem : value ∈ values) (option : value ∈ options) :
    (∃ s ∈ resolveOptions options values, IsFirstAlike options value s) ∧
    (value ∈ resolveOptions options values ↔
      IsFirstAlike options value value ∨ ∃ other ∈ values, IsPartOnly options other value) := by
  have given : options ≠ [] := List.ne_nil_of_mem option
  constructor
  · have named : (options.find? fun t => Text.lower t == Text.lower value).isSome := by
      rw [List.find?_isSome]
      exact ⟨value, option, by simp⟩
    obtain ⟨s, found⟩ := Option.isSome_iff_exists.mp named
    have first := find?_alike_iff.mp found
    exact ⟨s, (mem_resolveOptions given).mpr ⟨value, mem, .inl first⟩, first⟩
  · rw [mem_resolveOptions given]
    constructor
    · rintro ⟨other, inValues, first | part⟩
      · obtain ⟨before, after, split, alike, apart⟩ := first
        rw [← alike] at apart
        exact .inl ⟨before, after, split, rfl, apart⟩
      · exact .inr ⟨other, inValues, part⟩
    · rintro (first | ⟨other, inValues, part⟩)
      · exact ⟨value, mem, .inl first⟩
      · exact ⟨other, inValues, .inr part⟩

/-- The first of two options that differ in case alone is found by its name. -/
theorem resolveOptions_named_first :
    "creator" ∈ ["Creator", "creator"] ∧ "creator" ∈ ["creator", "Creator", "Model"] ∧
      "creator" ∈ resolveOptions ["creator", "Creator", "Model"] ["Creator", "creator"] := by
  have mem : "creator" ∈ ["Creator", "creator"] := by decide
  have option : "creator" ∈ ["creator", "Creator", "Model"] := by decide
  refine ⟨mem, option, (resolveOptions_named mem option).2.mpr (.inl ?_)⟩
  exact ⟨[], ["Creator", "Model"], rfl, rfl, by simp⟩

/-- The second of them is not found by its own. -/
theorem resolveOptions_misses :
    "Creator" ∈ ["creator", "Creator"] ∧
      resolveOptions ["creator", "Creator"] ["Creator"] = ["creator"] ∧
      "Creator" ∉ resolveOptions ["creator", "Creator"] ["Creator"] := by
  decide

end BaseGateway
