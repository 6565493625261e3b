import BaseGateway.Condition.Formula
import BaseGateway.Proofs.Decimal.Layout
import BaseGateway.Proofs.Formula.Shape
import BaseGateway.Proofs.Settings.InForce

/-!
# What conditions stand for

The meaning of a condition without the journal and without failure: its field, the labels, options,
numbers or dates that it is about, one test for each of them, and the tree that the tests make.
A condition whose formula can be written is written as that tree (`Condition.toFormula_ok`), and the
tests of the condition are then well formed, so that the same holds of a whole query
(`Combination.ofConditions_ok`).
-/

namespace BaseGateway

/-- Does the bucket of a label hold an age between two bounds? A label that cannot be read has no
bucket. -/
def AgeBucket.meets (lowest highest : Number) (label : String) : Bool :=
  match AgeBucket.ofLabel label with
  | .ok bucket => bucket.overlaps lowest highest
  | .error _ => false

/-- The labels that the condition is about: those with a bucket that overlaps its ages. -/
def AgeCondition.labels (inForce : List String) (c : AgeCondition) : List String :=
  (c.availableOptions.getD inForce).filter
    (AgeBucket.meets (.whole c.ages.minAge) (.whole c.ages.maxAge))

/-- The options that the values of the condition stand for. -/
def SelectCondition.options (c : SelectCondition) : List String :=
  if c.useFuzzyMatch then resolveOptions (c.availableOptions.getD []) c.values else c.values

/-- A date counts as given unless it is empty. -/
def DateCondition.given (date : Option String) : Option String := date.filter (!·.isEmpty)

namespace Formula

/-- The field holds a label. -/
def bucket (name : List Char) (label : String) : Formula :=
  .test name .equal (.literal label.toList)

/-- The joined options of the field hold an option. -/
def found (name : List Char) (option : String) : Formula :=
  .call "FIND".toList [.literal option.toList, .call "ARRAYJOIN".toList [.field name]]

/-- The field is above or below a number. -/
def limit (name : List Char) (relation : Relation) (x : Float) : Formula :=
  .test name relation (.numeral (Number.real x).formulaChars)

/-- The field is after or before a date. -/
def dated (name : List Char) (function date : String) : Formula :=
  .call function.toList [.field name, .literal date.toList]

end Formula

namespace Condition

/-- Is the formula of the condition written by this library? -/
def isGenerated : Condition → Bool
  | .customFormula _ => false
  | _ => true

/-- The field that the condition is about, without the blanks around its name. -/
def name : Condition → List Char
  | .ageRange c => Text.trimChars c.fieldName.toList
  | .multipleSelect c => Text.trimChars c.fieldName.toList
  | .numberRange c => Text.trimChars c.fieldName.toList
  | .dateRange c => Text.trimChars c.fieldName.toList
  | .customFormula _ => []

/-- The tests that the condition is made of, in order. -/
def leaves (inForce : List String) (k : Condition) : List Formula :=
  match k with
  | .ageRange c => (c.labels inForce).map (Formula.bucket k.name)
  | .multipleSelect c => c.options.map (Formula.found k.name)
  | .numberRange c =>
    (c.lowest.map (Formula.limit k.name .atLeast)).toList ++
      (c.highest.map (Formula.limit k.name .atMost)).toList
  | .dateRange c =>
    ((DateCondition.given c.startDate).map (Formula.dated k.name "IS_AFTER")).toList ++
      ((DateCondition.given c.endDate).map (Formula.dated k.name "IS_BEFORE")).toList
  | .customFormula _ => []

/-- The texts that the condition compares its field with, in order. -/
def values (inForce : List String) : Condition → List String
  | .ageRange c => c.labels inForce
  | .multipleSelect c => c.options
  | .dateRange c =>
    (DateCondition.given c.startDate).toList ++ (DateCondition.given c.endDate).toList
  | .numberRange _ | .customFormula _ => []

/-- The tree of the condition. -/
def tree (inForce : List String) (k : Condition) : Formula :=
  match k with
  | .ageRange _ => .oneOf (k.leaves inForce)
  | .multipleSelect c => c.matchType.formula (k.leaves inForce)
  | .numberRange _ | .dateRange _ => .allOf (k.leaves inForce)
  | .customFormula formula => .verbatim formula.toList

end Condition

theorem FieldName.ofText_ok {s : String} {name : FieldName} (h : FieldName.ofText s = .ok name) :
    name.chars = Text.trimChars s.toList := by
  unfold FieldName.ofText at h
  split at h
  · cases h
  · split at h
    · cases h
    · cases h
      rfl

theorem FieldName.not_mem_chars (name : FieldName) : '\x7d' ∉ name.chars := by
  intro mem
  exact absurd (name.safe _ mem) (by decide)

theorem requireFinite_int_ok {n : Int} {role : String} {m : Number}
    (h : requireFinite (.int n) role = .ok m) : m = .whole n := by
  unfold requireFinite at h
  dsimp only at h
  split at h
  · cases h
    rfl
  · cases h

theorem requireFinite_float_ok {x : Float} {role : String} {m : Number}
    (h : requireFinite (.float x) role = .ok m) : m = .real x ∧ x.isFinite = true := by
  unfold requireFinite at h
  dsimp only at h
  split at h
  · next finite =>
    cases h
    exact ⟨rfl, finite⟩
  · cases h

namespace AgeBucket

/-- A bucket without a bound overlaps nothing. -/
theorem overlaps_of_isMalformed {b : AgeBucket} {lowest highest : Number}
    (h : b.isMalformed = .ok true) : b.overlaps lowest highest = false := by
  obtain ⟨label, floor, ceiling⟩ := b
  unfold isMalformed at h
  obtain ⟨missing, first, h⟩ := Except.bind_ok h
  cases floor with
  | none => rfl
  | some floor =>
    have notMissing : missing = false := by
      unfold isMissing at first
      dsimp only at first
      split at first
      · cases first
        rfl
      · cases first
    subst notMissing
    simp only [Bool.false_eq_true, if_false] at h
    cases ceiling with
    | unbounded => cases h
    | last age =>
      cases age with
      | none => rfl
      | some age =>
        dsimp only [isMissing] at h
        split at h <;> cases h

end AgeBucket

theorem overlappingLabels_ok {lowest highest : Number} {labels found : List String}
    {j j' : Journal} (h : (overlappingLabels lowest highest labels).run.run j = (.ok found, j')) :
    found = labels.filter (AgeBucket.meets lowest highest) := by
  induction labels generalizing found j j' with
  | nil =>
    cases h
    rfl
  | cons label rest ih =>
    unfold overlappingLabels at h
    obtain ⟨bucket, j₁, read, h⟩ := run_bind_ok h
    obtain ⟨malformed, j₂, checked, h⟩ := run_bind_ok h
    rw [Logged.run_ofFault, Prod.mk.injEq, orFault_eq_ok] at read checked
    have meets : AgeBucket.meets lowest highest label = bucket.overlaps lowest highest := by
      simp only [AgeBucket.meets, read.1]
    rw [List.filter_cons, meets]
    cases malformed with
    | true =>
      simp only [if_true] at h
      obtain ⟨_, j₃, _, h⟩ := run_bind_ok h
      rw [AgeBucket.overlaps_of_isMalformed checked.1]
      exact ih h
    | false =>
      simp only [Bool.false_eq_true, if_false] at h
      obtain ⟨others, j₃, tail, h⟩ := run_bind_ok h
      rw [run_pure, Prod.mk.injEq, Except.ok.injEq] at h
      rw [← h.1, ih tail]

theorem Formula.ofAges_ok {field : String} {lowest highest : Int} {labels : AgeLabels}
    {f : Formula} {j j' : Journal}
    (h : (Formula.ofAges (.text field) (.int lowest) (.int highest) labels).run.run j =
      (.ok f, j')) :
    '\x7d' ∉ Text.trimChars field.toList ∧
      f = .oneOf ((labels.texts.filter (AgeBucket.meets (.whole lowest) (.whole highest))).map
        (Formula.bucket (Text.trimChars field.toList))) := by
  unfold Formula.ofAges at h
  obtain ⟨name, j₁, named, h⟩ := run_bind_ok h
  obtain ⟨low, j₂, lower, h⟩ := run_bind_ok h
  obtain ⟨high, j₃, upper, h⟩ := run_bind_ok h
  obtain ⟨found, j₄, overlapping, built⟩ := run_bind_ok h
  rw [Logged.run_ofRefusal, Prod.mk.injEq, orRefused_eq_ok] at named
  rw [Logged.run_ofExcept, Prod.mk.injEq] at lower upper
  rw [run_pure, Prod.mk.injEq, Except.ok.injEq] at built
  obtain rfl := requireFinite_int_ok lower.1
  obtain rfl := requireFinite_int_ok upper.1
  unfold AgeLabels.overlapping at overlapping
  obtain ⟨meeting, j₅, listed, kept⟩ := run_bind_ok overlapping
  have same : found = meeting := by
    split at kept
    · cases kept
      rfl
    · cases kept
  rw [← FieldName.ofText_ok named.1]
  refine ⟨name.not_mem_chars, ?_⟩
  rw [← built.1, same, overlappingLabels_ok listed]
  rfl

theorem Formula.ofOptions_ok {m : Match} {field : String} {values options : List String}
    {fuzzy : Bool} {f : Formula}
    (h : Formula.ofOptions m (.text field) values options fuzzy = .ok f) :
    '\x7d' ∉ Text.trimChars field.toList ∧
      f = m.formula ((if fuzzy then resolveOptions options values else values).map
        (Formula.found (Text.trimChars field.toList))) := by
  unfold Formula.ofOptions at h
  obtain ⟨name, named, h⟩ := Except.bind_ok h
  have none : resolveOptions options [] = [] := by
    unfold resolveOptions
    split <;> rfl
  have resolved : (if fuzzy && !values.isEmpty then resolveOptions options values else values) =
      if fuzzy then resolveOptions options values else values := by
    cases values with
    | nil => cases fuzzy <;> simp [none]
    | cons v rest => simp
  rw [← FieldName.ofText_ok named, ← resolved]
  exact ⟨name.not_mem_chars, (Except.ok.inj h).symm⟩

theorem Formula.bound_ok {name : FieldName} {relation : Relation} {role : String}
    {x : Option Float} {fs : List Formula}
    (h : Formula.bound name relation role ((x.map Value.float).getD .null) = .ok fs) :
    fs = (x.map (Formula.limit name.chars relation)).toList ∧ ∀ y ∈ x, y.isFinite = true := by
  unfold Formula.bound at h
  cases x with
  | none => exact ⟨(Except.ok.inj h).symm, by simp⟩
  | some x =>
    obtain ⟨n, finite, h⟩ := Except.bind_ok h
    obtain ⟨rfl, isFinite⟩ := requireFinite_float_ok finite
    refine ⟨(Except.ok.inj h).symm, ?_⟩
    intro y mem
    rwa [← Option.mem_some_iff.mp mem]

theorem Formula.ofNumbers_ok {field : String} {lowest highest : Option Float} {f : Formula}
    (h : Formula.ofNumbers (.text field) ((lowest.map Value.float).getD .null)
      ((highest.map Value.float).getD .null) = .ok f) :
    '\x7d' ∉ Text.trimChars field.toList ∧
      f = .allOf ((lowest.map (Formula.limit (Text.trimChars field.toList) .atLeast)).toList ++
        (highest.map (Formula.limit (Text.trimChars field.toList) .atMost)).toList) ∧
      (∀ x ∈ lowest, x.isFinite = true) ∧ ∀ x ∈ highest, x.isFinite = true := by
  unfold Formula.ofNumbers at h
  obtain ⟨name, named, h⟩ := Except.bind_ok h
  obtain ⟨low, lower, h⟩ := Except.bind_ok h
  obtain ⟨high, upper, h⟩ := Except.bind_ok h
  obtain ⟨rfl, lowFinite⟩ := Formula.bound_ok lower
  obtain ⟨rfl, highFinite⟩ := Formula.bound_ok upper
  rw [← FieldName.ofText_ok (orRefused_eq_ok.mp named)]
  exact ⟨name.not_mem_chars, (Except.ok.inj h).symm, lowFinite, highFinite⟩

theorem Formula.dateBound_ok {name : FieldName} {function role : String} {date : Option String}
    {fs : List Formula} (h : Formula.dateBound name function role (.ofText? date) = .ok fs) :
    fs = ((DateCondition.given date).map (Formula.dated name.chars function)).toList := by
  unfold Formula.dateBound at h
  cases date with
  | none => exact (Except.ok.inj h).symm
  | some s =>
    cases empty : s.isEmpty with
    | true =>
      have notGiven : DateCondition.given (some s) = none := by
        simp only [DateCondition.given, Option.filter_some, empty, Bool.not_true,
          Bool.false_eq_true, if_false]
      simp only [Value.ofText?, Value.isGiven, empty] at h
      rw [notGiven]
      exact (Except.ok.inj h).symm
    | false =>
      have given : DateCondition.given (some s) = some s := by
        simp only [DateCondition.given, Option.filter_some, empty, Bool.not_false, if_true]
      simp only [Value.ofText?, Value.isGiven, empty] at h
      rw [given]
      split at h
      · next absurd => simp at absurd
      · split at h
        · exact (Except.ok.inj h).symm
        · cases h

theorem Formula.ofDates_ok {field : String} {first last : Option String} {f : Formula}
    (h : Formula.ofDates (.text field) (.ofText? first) (.ofText? last) = .ok f) :
    '\x7d' ∉ Text.trimChars field.toList ∧
      f = .allOf
        (((DateCondition.given first).map
            (Formula.dated (Text.trimChars field.toList) "IS_AFTER")).toList ++
          ((DateCondition.given last).map
            (Formula.dated (Text.trimChars field.toList) "IS_BEFORE")).toList) := by
  unfold Formula.ofDates at h
  obtain ⟨name, named, h⟩ := Except.bind_ok h
  obtain ⟨low, lower, h⟩ := Except.bind_ok h
  obtain ⟨high, upper, h⟩ := Except.bind_ok h
  obtain rfl := Formula.dateBound_ok lower
  obtain rfl := Formula.dateBound_ok upper
  rw [← FieldName.ofText_ok named]
  exact ⟨name.not_mem_chars, (Except.ok.inj h).symm⟩

/-- What lets the tests of a condition be read back: no closing brace in the name of its field, and
no number that is not finite. -/
structure Condition.Writable (k : Condition) : Prop where
  closed : '\x7d' ∉ k.name
  finite : ∀ c : NumberCondition, k = .numberRange c →
    (∀ x ∈ c.lowest, x.isFinite = true) ∧ ∀ x ∈ c.highest, x.isFinite = true

namespace Condition

/-- A condition whose formula can be written is written as its tree. -/
theorem toFormula_ok {file : SettingsFile} {k : Condition} {f : Formula} {j j' : Journal}
    (h : (k.toFormula (Settings.ageLabels file)).run.run j = (.ok f, j')) :
    k.Writable ∧ f = k.tree (Settings.labelTexts file) := by
  cases k with
  | ageRange c =>
    have written : ∀ {known : AgeLabels} {t t' : Journal},
        known.texts = c.availableOptions.getD (Settings.labelTexts file) →
        (Formula.ofAges (.text c.fieldName) (.int c.ages.minAge) (.int c.ages.maxAge)
          known).run.run t = (.ok f, t') →
        (ageRange c).Writable ∧ f = (ageRange c).tree (Settings.labelTexts file) := by
      intro known t t' texts built
      obtain ⟨closed, shape⟩ := Formula.ofAges_ok built
      rw [texts] at shape
      exact ⟨⟨closed, fun c same => nomatch same⟩, shape⟩
    cases options : c.availableOptions with
    | some texts =>
      simp only [toFormula, options] at h
      obtain ⟨known, j₁, labels, built⟩ := run_bind_ok h
      cases labels
      exact written (by rw [options, Option.getD_some]) built
    | none =>
      simp only [toFormula, options] at h
      obtain ⟨known, j₁, labels, built⟩ := run_bind_ok h
      obtain ⟨j₂, run⟩ := Settings.ageLabels_settled file j
      rw [run, Prod.mk.injEq, orFault_eq_ok] at labels
      exact written (by rw [options, Option.getD_none, Settings.labelTexts, labels.1]) built
  | multipleSelect c =>
    unfold toFormula at h
    rw [Logged.run_ofRefusal, Prod.mk.injEq, orRefused_eq_ok] at h
    obtain ⟨closed, shape⟩ := Formula.ofOptions_ok h.1
    exact ⟨⟨closed, fun c same => nomatch same⟩, shape⟩
  | numberRange c =>
    unfold toFormula at h
    rw [Logged.run_ofExcept, Prod.mk.injEq] at h
    obtain ⟨closed, shape, low, high⟩ := Formula.ofNumbers_ok h.1
    refine ⟨⟨closed, fun d same => ?_⟩, shape⟩
    cases same
    exact ⟨low, high⟩
  | dateRange c =>
    unfold toFormula at h
    rw [Logged.run_ofRefusal, Prod.mk.injEq, orRefused_eq_ok] at h
    obtain ⟨closed, shape⟩ := Formula.ofDates_ok h.1
    exact ⟨⟨closed, fun c same => nomatch same⟩, shape⟩
  | customFormula formula =>
    cases h
    exact ⟨⟨List.not_mem_nil, fun c same => nomatch same⟩, rfl⟩

end Condition

namespace Grammar

theorem wellFormed_bucket {name : List Char} (closed : '\x7d' ∉ name) (label : String) :
    WellFormed (.bucket name label) := ⟨closed, trivial⟩

theorem wellFormed_found {name : List Char} (closed : '\x7d' ∉ name) (option : String) :
    WellFormed (.found name option) := by
  refine wellFormed_call (by decide) ?_
  have joined : WellFormed (.call "ARRAYJOIN".toList [.field name]) :=
    wellFormed_call (by decide) (List.forall_mem_singleton.mpr closed)
  exact List.forall_mem_cons.mpr ⟨trivial, List.forall_mem_singleton.mpr joined⟩

theorem wellFormed_limit {name : List Char} (closed : '\x7d' ∉ name) (relation : Relation)
    {x : Float} (finite : x.isFinite = true) : WellFormed (.limit name relation x) := by
  refine ⟨closed, numeral_formulaChars fun y same => ?_⟩
  cases same
  exact finite

theorem wellFormed_dated {name : List Char} (closed : '\x7d' ∉ name) {function : String}
    (named : Name function.toList) (date : String) : WellFormed (.dated name function date) :=
  wellFormed_call named (List.forall_mem_cons.mpr ⟨closed, List.forall_mem_singleton.mpr trivial⟩)

end Grammar

namespace Condition

/-- What holds of every test of a field holds of the tests of a condition. -/
theorem forall_leaves {P : Formula → Prop} (k : Condition) (inForce : List String)
    (bucket : ∀ label, P (.bucket k.name label)) (found : ∀ option, P (.found k.name option))
    (limit : ∀ relation x, P (.limit k.name relation x))
    (dated : ∀ function ∈ ["IS_AFTER", "IS_BEFORE"], ∀ date, P (.dated k.name function date)) :
    ∀ leaf ∈ k.leaves inForce, P leaf := by
  intro leaf mem
  cases k with
  | ageRange c =>
    obtain ⟨label, _, rfl⟩ := List.mem_map.mp mem
    exact bucket label
  | multipleSelect c =>
    obtain ⟨option, _, rfl⟩ := List.mem_map.mp mem
    exact found option
  | numberRange c =>
    simp only [leaves, List.mem_append, Option.mem_toList, Option.map_eq_some_iff] at mem
    obtain ⟨x, _, rfl⟩ | ⟨x, _, rfl⟩ := mem
    · exact limit .atLeast x
    · exact limit .atMost x
  | dateRange c =>
    simp only [leaves, List.mem_append, Option.mem_toList, Option.map_eq_some_iff] at mem
    obtain ⟨date, _, rfl⟩ | ⟨date, _, rfl⟩ := mem
    · exact dated "IS_AFTER" (by simp) date
    · exact dated "IS_BEFORE" (by simp) date
  | customFormula formula => cases mem

open Grammar

theorem Writable.leaves_wellFormed {k : Condition} (h : k.Writable) (inForce : List String) :
    ∀ leaf ∈ k.leaves inForce, WellFormed leaf := by
  cases k with
  | ageRange c => exact List.forall_mem_map.mpr fun label _ => wellFormed_bucket h.closed label
  | multipleSelect c => exact List.forall_mem_map.mpr fun s _ => wellFormed_found h.closed s
  | numberRange c =>
    intro leaf mem
    obtain ⟨low, high⟩ := h.finite c rfl
    simp only [leaves, List.mem_append, Option.mem_toList, Option.map_eq_some_iff] at mem
    obtain ⟨x, given, rfl⟩ | ⟨x, given, rfl⟩ := mem
    · exact wellFormed_limit h.closed .atLeast (low x given)
    · exact wellFormed_limit h.closed .atMost (high x given)
  | dateRange c =>
    intro leaf mem
    simp only [leaves, List.mem_append, Option.mem_toList, Option.map_eq_some_iff] at mem
    obtain ⟨date, given, rfl⟩ | ⟨date, given, rfl⟩ := mem
    · exact wellFormed_dated h.closed (by decide) date
    · exact wellFormed_dated h.closed (by decide) date
  | customFormula formula => exact List.forall_mem_nil _

/-- The tree of a generated condition reads back. -/
theorem Writable.tree_wellFormed {k : Condition} (h : k.Writable) (generated : k.isGenerated = true)
    (inForce : List String) : WellFormed (k.tree inForce) := by
  have leaves := h.leaves_wellFormed inForce
  cases k with
  | ageRange c => exact wellFormed_oneOf leaves
  | multipleSelect c => exact wellFormed_matchFormula c.matchType leaves
  | numberRange c => exact wellFormed_allOf leaves
  | dateRange c => exact wellFormed_allOf leaves
  | customFormula formula => cases generated

end Condition

/-- The formula of a query that can be written combines the trees of its conditions. -/
theorem Combination.ofConditions_ok {c : Combination} {file : SettingsFile} {ks : List Condition}
    {f : Formula} {j j' : Journal}
    (h : (c.ofConditions (Settings.ageLabels file) ks).run.run j = (.ok f, j')) :
    ks ≠ [] ∧ (∀ k ∈ ks, k.Writable) ∧
      f = c.combine (ks.map (Condition.tree (Settings.labelTexts file))) := by
  unfold Combination.ofConditions at h
  cases ks with
  | nil => cases h
  | cons k rest =>
    simp only [List.isEmpty_cons, Bool.false_eq_true, if_false] at h
    obtain ⟨formulas, j₁, each, built⟩ := run_bind_ok h
    rw [run_pure, Prod.mk.injEq, Except.ok.injEq] at built
    have pairs := (run_mapM_ok each).imp fun k f ⟨t, t', run⟩ => Condition.toFormula_ok run
    obtain ⟨writable, trees⟩ := (List.forall₂_and_left _ _).mp pairs
    have same : (k :: rest).map (Condition.tree (Settings.labelTexts file)) = formulas := by
      rw [← List.forall₂_eq_eq_eq, List.forall₂_map_left_iff]
      exact trees.imp fun k f shape => shape.symm
    rw [same]
    exact ⟨List.cons_ne_nil k rest, writable, built.1.symm⟩

end BaseGateway
