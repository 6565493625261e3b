import BaseGateway.Proofs.Client.Asking
import BaseGateway.Proofs.Condition.Meaning
import BaseGateway.Proofs.Request.Restoring
import BaseGateway.Server.Handler

/-!
# Queries that say the same

The tools that look for ages and for options have a condition of their own each, and perhaps a
formula of the caller's. A query of conditions can say the same (`AgeQuery.asSmart`,
`SelectQuery.asSmart`). It is accepted where the other one was, sends the same requests from the
same session and gives the same records by the same formula, or the same failure
(`Handler.queries_agree`).

* one condition by itself is written as it stands, whatever it is combined by
  (`Combination.combine_alone`);
* so both ways lead to formulas of one text (`Condition.toFormula_alike`), and from there to the
  same answer (`Handler.answer_alike`).
-/

namespace BaseGateway

open Checked Intake

/-- A single formula that is written at all is written as it stands. -/
theorem Combination.combine_alone (c : Combination) {f : Formula} (written : f.chars ≠ []) :
    (c.combine [f]).text = f.text := by
  have alone (neutral : Formula) : (Formula.relevant neutral [f] = [f]) ∨
      Formula.relevant neutral [f] = [] ∧ neutral.chars = f.chars := by
    have full : f.chars.isEmpty = false := List.isEmpty_eq_false_iff.mpr written
    unfold Formula.relevant
    by_cases same : f.chars = neutral.chars
    · right
      exact ⟨by simp [same], same.symm⟩
    · left
      simp [full, same]
  cases c with
  | and =>
    unfold combine
    rcases alone .always with kept | ⟨dropped, same⟩
    · rw [kept]
      rfl
    · rw [dropped]
      exact congrArg String.ofList same
  | or =>
    unfold combine
    rcases alone .never with kept | ⟨dropped, same⟩
    · rw [kept]
      rfl
    · rw [dropped]
      exact congrArg String.ofList same

/-- A formula of the caller's own as a condition, where there is one. -/
def ownConditions (filters : Option String) : List Condition :=
  ((filters.filter (!·.isEmpty)).map Condition.customFormula).toList

/-- May a condition and a formula of the caller's own be combined like this? With no such formula it
does not matter how. -/
def Combination.Fits (c : Combination) (filters : Option String) : Prop :=
  c = .and ∨ filters.filter (!·.isEmpty) = none

/-- The condition of a query for ages. -/
def AgeQuery.condition (q : AgeQuery) : Condition :=
  .ageRange ⟨q.ages, q.ageFieldName, q.availableAgeRanges⟩

/-- A query for ages as a query of conditions. -/
def AgeQuery.asSmart (c : Combination) (q : AgeQuery) : SmartQuery :=
  ⟨q.target, q.condition :: ownConditions q.additionalFilters, c, q.extent, none⟩

/-- A query for options as a query of conditions. -/
def SelectQuery.asSmart (c : Combination) (q : SelectQuery) : SmartQuery :=
  ⟨q.target, Handler.selectCondition q :: ownConditions q.additionalFilters, c, q.extent, none⟩

theorem length_ownConditions (filters : Option String) : (ownConditions filters).length ≤ 1 := by
  unfold ownConditions
  cases filters.filter (!·.isEmpty) <;> simp

theorem ownConditions_again {filters : Option String} (h : RestoredFilters filters) :
    ∀ k ∈ ownConditions filters, Condition.read k.arguments.plain = .valid k := by
  intro k mem
  obtain ⟨own, kept, rfl⟩ := Option.map_eq_some_iff.mp (Option.mem_toList.mp mem)
  exact Condition.customFormula_again (h own (Option.eq_some_of_filter_eq_some kept))

/-- A query of a condition that was read, and perhaps of the caller's own formula, is read again. -/
theorem SmartQuery.single_again {target : Target} (addressed : target.Restored) {k : Condition}
    (read' : Condition.read k.arguments.plain = .valid k) {filters : Option String}
    (own : RestoredFilters filters) (c : Combination) {extent : Extent}
    (limited : extent.Restored) :
    read (arguments ⟨target, k :: ownConditions filters, c, extent, none⟩).plain =
      .valid ⟨target, k :: ownConditions filters, c, extent, none⟩ := by
  have few := length_ownConditions filters
  apply read_again addressed
  · simp
  · simp only [List.length_cons]
    have room : 2 ≤ Limits.conditions := by decide
    omega
  · exact List.forall_mem_cons.mpr ⟨read', ownConditions_again own⟩
  · exact limited
  · rfl

/-- Both ways to ask lead to formulas of one text, or to the same failure. -/
theorem Condition.toFormula_alike (settings : SettingsFile) {k : Condition}
    (generated : k.isGenerated = true) {c : Combination} {filters : Option String}
    (fits : c.Fits filters) :
    Alike Eq (fun f g => (Handler.withFilters f filters).text = g.text)
      (k.toFormula (Settings.ageLabels settings))
      (c.ofConditions (Settings.ageLabels settings) (k :: ownConditions filters)) := by
  rintro j _ rfl
  have whole : c.ofConditions (Settings.ageLabels settings) (k :: ownConditions filters) =
      k.toFormula (Settings.ageLabels settings) >>= fun f => pure (c.combine (f ::
        ((filters.filter (!·.isEmpty)).map fun own => Formula.verbatim own.toList).toList)) := by
    unfold Combination.ofConditions ownConditions
    rw [if_neg (by simp), List.mapM_cons]
    cases filters.filter (!·.isEmpty) with
    | none => simp
    | some own => simp [toFormula]
  rw [whole, run_bind]
  rcases built : (k.toFormula (Settings.ageLabels settings)).run.run j with ⟨e | f, j'⟩
  · exact ⟨rfl, rfl⟩
  · refine ⟨rfl, ?_⟩
    unfold Handler.withFilters
    cases given : filters.filter (!·.isEmpty) with
    | none =>
      obtain ⟨writable, rfl⟩ := toFormula_ok built
      exact (c.combine_alone (Grammar.chars_ne_nil (writable.tree_wellFormed generated _))).symm
    | some own =>
      rcases fits with rfl | none
      · rfl
      · rw [given] at none
        cases none

/-- Two answers that show the same records and the same formula. -/
def SameAnswer (v w : Value) : Prop :=
  ∃ query query' formula records,
    Handler.found (query ++ [("formula", .text formula)]) records = .ok v ∧
      Handler.found (query' ++ [("formula", .text formula)]) records = .ok w

theorem Alike.ofLogged {τ α β : Type} {Q : α → β → Prop} {x : Logged α} {y : Logged β}
    (h : Alike Eq Q x y) :
    Alike Eq Q (Operation.ofLogged x : Operation τ α) (Operation.ofLogged y) := by
  rintro s _ rfl
  obtain ⟨last, same⟩ := h s.journal s.journal rfl
  exact ⟨congrArg (fun journal => { s with journal }) last, same⟩

theorem Operation.run_ofLogged {τ α : Type} (x : Logged α) (s : Session τ) :
    (ofLogged x : Operation τ α).run.run s =
      ((x.run.run s.journal).1, { s with journal := (x.run.run s.journal).2 }) := rfl

/-- What is made of a result does not write to the journal. -/
theorem Operation.ofLogged_map {τ α β : Type} (x : Logged α) (f : α → β) :
    (ofLogged (x >>= fun a => pure (f a)) : Operation τ β) =
      ofLogged x >>= fun a => pure (f a) := by
  apply ExceptT.ext
  apply StateT.ext
  intro s
  have left := run_ofLogged (x >>= fun a => pure (f a)) s
  have right := run_bind (ofLogged x) (fun a => pure (f a)) s
  rw [run_bind] at left
  rw [run_ofLogged] at right
  refine left.trans (Eq.trans ?_ right.symm)
  rcases x.run.run s.journal with ⟨_ | _, j⟩ <;> rfl

namespace Handler

/-- Showing the records does not depend on the query that is shown with them. -/
theorem found_alike {τ : Type} (query query' : List (String × Value)) (formula : String)
    (records : List Value) :
    Alike Eq SameAnswer
      (Operation.ofFault (found (query ++ [("formula", .text formula)]) records) :
        Operation τ Value)
      (Operation.ofFault (found (query' ++ [("formula", .text formula)]) records)) := by
  rintro s _ rfl
  refine ⟨rfl, ?_⟩
  rw [Operation.run_ofFault, Operation.run_ofFault]
  cases counted : Value.count records.length with
  | error f =>
    have fails (shown : List (String × Value)) : found shown records = .error f := by
      unfold found
      rw [counted]
      rfl
    rw [fails, fails]
    rfl
  | ok count =>
    have shows (shown : List (String × Value)) : ∃ v, found shown records = .ok v := by
      unfold found
      rw [counted]
      exact ⟨_, rfl⟩
    obtain ⟨v, first⟩ := shows (query ++ [("formula", .text formula)])
    obtain ⟨w, second⟩ := shows (query' ++ [("formula", .text formula)])
    rw [first, second]
    exact ⟨query, query', formula, records, first, second⟩

theorem request_valid {τ α β : Type} (x : α) (next : α → Operation τ β) :
    request (.valid x) >>= next = next x := rfl

variable {τ : Type} [Add τ] [Sub τ] [OfNat τ 0] [LT τ] [DecidableLT τ] [Duration τ]

/-- What is selected by a formula, and shown. -/
def answer (a : Account) (target : Target) (extent : Extent) (query : List (String × Value))
    (formula : Formula) : Operation τ Value := do
  let records ← select a target formula extent
  Operation.ofFault (found (query ++ [("formula", .text formula.text)]) records)

/-- Formulas of one text select the same records. -/
theorem answer_alike (a : Account) (target : Target) (extent : Extent)
    (query query' : List (String × Value)) {f g : Formula} (same : f.text = g.text) :
    Alike Eq SameAnswer (answer a target extent query f : Operation τ Value)
      (answer a target extent query' g) := by
  have selected : (select a target f extent : Operation τ (List Value)) =
      select a target g extent := by
    unfold select
    rw [same]
  unfold answer
  rw [selected, same]
  refine Alike.seq ?_ fun records => found_alike query query' g.text records
  rintro s _ rfl
  exact ⟨rfl, .refl _⟩

variable (settings : SettingsFile) (a : Account)

theorem queryByAge_eq {args : Value} {q : AgeQuery} (accepted : AgeQuery.read args = .valid q) :
    (queryByAge settings a args : Operation τ Value) =
      Operation.ofLogged (q.condition.toFormula (Settings.ageLabels settings)) >>= fun f =>
        answer a q.target q.extent [("minAge", .int q.ages.minAge), ("maxAge", .int q.ages.maxAge)]
          (withFilters f q.additionalFilters) := by
  have formula : ageFormula settings q =
      q.condition.toFormula (Settings.ageLabels settings) >>= fun f =>
        pure (withFilters f q.additionalFilters) := by
    unfold ageFormula AgeQuery.condition Condition.toFormula
    dsimp only
    cases q.availableAgeRanges <;> rw [bind_assoc]
  unfold queryByAge
  rw [accepted, request_valid, formula, Operation.ofLogged_map, bind_assoc]
  rfl

theorem queryByOptions_eq {args : Value} {q : SelectQuery}
    (accepted : SelectQuery.read args = .valid q) :
    (queryByOptions settings a args : Operation τ Value) =
      Operation.ofLogged ((selectCondition q).toFormula (Settings.ageLabels settings)) >>= fun f =>
        answer a q.target q.extent [("fieldName", .text q.fieldName),
          ("matchType", .text q.matchType.name), ("values", .ofTexts q.values)]
          (withFilters f q.additionalFilters) := by
  unfold queryByOptions
  rw [accepted]
  rfl

theorem smartQuery_eq {args : Value} {q : SmartQuery} (accepted : SmartQuery.read args = .valid q)
    (unsorted : q.sort = none) :
    (smartQuery settings a args : Operation τ Value) =
      Operation.ofLogged (q.combineWith.ofConditions (Settings.ageLabels settings) q.conditions) >>=
        answer a q.target q.extent [("conditions", .list (q.conditions.map (·.arguments.echo))),
          ("combineWith", .text q.combineWith.name)] := by
  obtain ⟨target, conditions, c, extent, sort⟩ := q
  obtain rfl : sort = none := unsorted
  unfold smartQuery
  rw [accepted]
  rfl

/-- A query for ages with a name that a condition may have, or a query for options, is answered like
the query of conditions that says the same, and this one is accepted. Without a formula of the
caller's own it does not matter how the one condition is combined. -/
theorem queries_agree :
    (∀ {args : Value} {q : AgeQuery} {c : Combination}, AgeQuery.read args = .valid q →
      Intake.fieldName (.text q.ageFieldName) = .valid q.ageFieldName →
      c.Fits q.additionalFilters →
      SmartQuery.read (q.asSmart c).arguments.plain = .valid (q.asSmart c) ∧
      ∀ args', SmartQuery.read args' = .valid (q.asSmart c) →
        Alike Eq SameAnswer (queryByAge settings a args : Operation τ Value)
          (smartQuery settings a args')) ∧
    ∀ {args : Value} {q : SelectQuery} {c : Combination}, SelectQuery.read args = .valid q →
      c.Fits q.additionalFilters →
      SmartQuery.read (q.asSmart c).arguments.plain = .valid (q.asSmart c) ∧
      ∀ args', SmartQuery.read args' = .valid (q.asSmart c) →
        Alike Eq SameAnswer (queryByOptions settings a args : Operation τ Value)
          (smartQuery settings a args') := by
  constructor
  · intro args q c accepted named fits
    have restored := AgeQuery.read_restored args q accepted
    constructor
    · exact SmartQuery.single_again restored.target
        (Condition.ageRange_again restored.years named restored.labels) restored.filters c
        restored.extent
    · intro args' accepted'
      rw [queryByAge_eq settings a accepted, smartQuery_eq settings a accepted' rfl]
      exact (Alike.ofLogged (Condition.toFormula_alike settings rfl fits)).bind
        fun f g same => answer_alike a _ _ _ _ same
  · intro args q c accepted fits
    have restored := SelectQuery.read_restored args q accepted
    constructor
    · exact SmartQuery.single_again restored.target
        (Condition.multipleSelect_again restored.field restored.values restored.options)
        restored.filters c restored.extent
    · intro args' accepted'
      rw [queryByOptions_eq settings a accepted, smartQuery_eq settings a accepted' rfl]
      exact (Alike.ofLogged (Condition.toFormula_alike settings rfl fits)).bind
        fun f g same => answer_alike a _ _ _ _ same

/-- Ages without a formula of the caller's own, under "or", and options with one, under "and". -/
theorem queries_agree_people :
    let settings : SettingsFile := ⟨"settings.json", .missing⟩
    let ages : Value :=
      .record [("table", .text "People"), ("minAge", .int 3), ("maxAge", .int 5)]
    let options : Value :=
      .record [("table", .text "People"), ("fieldName", .text "Hobby"),
        ("matchType", .text "hasAny"), ("values", .ofTexts ["Chess"]),
        ("additionalFilters", .text "\x7bActive\x7d")]
    let people : Target := ⟨none, "People"⟩
    let ageQuery : AgeQuery :=
      ⟨⟨3, 5, by decide⟩, people, defaultAgeField, none, none, ⟨none, none⟩⟩
    let selectQuery : SelectQuery :=
      ⟨people, "Hobby", .hasAny, ["Chess"], none, true, some "\x7bActive\x7d", ⟨none, none⟩⟩
    Alike Eq SameAnswer (queryByAge settings .based ages : Operation Float Value)
        (smartQuery settings .based (ageQuery.asSmart .or).arguments.plain) ∧
      Alike Eq SameAnswer (queryByOptions settings .based options : Operation Float Value)
        (smartQuery settings .based (selectQuery.asSmart .and).arguments.plain) := by
  intro settings ages options people ageQuery selectQuery
  obtain ⟨byAge, byOptions⟩ := queries_agree (τ := Float) settings .based
  have named : Intake.fieldName (.text "Age") = .valid "Age" := rfl
  constructor
  · obtain ⟨accepted, alike⟩ := @byAge ages ageQuery .or rfl named (.inr rfl)
    exact alike _ accepted
  · obtain ⟨accepted, alike⟩ := @byOptions options selectQuery .and rfl (.inl rfl)
    exact alike _ accepted

end Handler

end BaseGateway
