import BaseGateway.Formula.Choice
import BaseGateway.Proofs.Formula.Printed

/-!
# Formulas made of others

Every builder and every combination makes one of a few shapes out of its parts: a sentinel, a part
by itself, or a call of several parts. Whatever the shape,

* it is well formed where its parts are (`wellFormed_oneOf` and its siblings);
* what is written in it is what is written in its parts, in order (`Gathers`);
* a combination drops the sentinel that changes nothing and keeps every other part
  (`combine_eq_joined`), so that what is written in it is what is written in all its parts.
-/

namespace BaseGateway

namespace Grammar

theorem wellFormed_call {function : List Char} (named : Name function) {fs : List Formula}
    (h : ∀ f ∈ fs, WellFormed f) : WellFormed (.call function fs) :=
  ⟨named, (allWellFormed_iff fs).mpr h⟩

theorem wellFormed_always : WellFormed .always :=
  wellFormed_call (by decide) (by simp)

theorem wellFormed_never : WellFormed .never :=
  wellFormed_call (by decide) (by simp)

theorem wellFormed_oneOf {fs : List Formula} (h : ∀ f ∈ fs, WellFormed f) :
    WellFormed (.oneOf fs) := by
  match fs, h with
  | [], _ => exact wellFormed_never
  | [f], h => exact h f (List.mem_singleton.mpr rfl)
  | f :: g :: rest, h => exact wellFormed_call (by decide) h

theorem wellFormed_allOf {fs : List Formula} (h : ∀ f ∈ fs, WellFormed f) :
    WellFormed (.allOf fs) := by
  match fs, h with
  | [], _ => exact wellFormed_always
  | [f], h => exact h f (List.mem_singleton.mpr rfl)
  | f :: g :: rest, h => exact wellFormed_call (by decide) h

theorem wellFormed_matchFormula (m : Match) {fs : List Formula} (h : ∀ f ∈ fs, WellFormed f) :
    WellFormed (m.formula fs) := by
  cases m with
  | hasAny => exact wellFormed_oneOf h
  | hasAll =>
    cases fs with
    | nil => exact wellFormed_always
    | cons f rest => exact wellFormed_call (by decide) h
  | hasNone =>
    cases fs with
    | nil => exact wellFormed_always
    | cons f rest =>
      refine wellFormed_call (by decide) fun g mem => ?_
      rw [List.mem_singleton.mp mem]
      exact wellFormed_oneOf h

/-- Nothing well formed is printed as an empty text. -/
theorem chars_ne_nil {f : Formula} (h : WellFormed f) : f.chars ≠ [] := by
  cases f with
  | literal s => simp [Formula.chars, Formula.literalChars]
  | field name => simp [Formula.chars, Formula.fieldChars]
  | call function arguments => simp [Formula.chars]
  | test name relation operand => simp [Formula.chars]
  | verbatim s => exact h.elim

end Grammar

namespace Formula

/-- A list made of a formula that for a call is made of its arguments, in order. -/
def Gathers {α : Type} (gather : Formula → List α) : Prop :=
  ∀ function arguments, gather (.call function arguments) = arguments.flatMap gather

namespace Gathers

variable {α : Type} {gather : Formula → List α}

theorem always (h : Gathers gather) : gather Formula.always = [] := h _ []

theorem never (h : Gathers gather) : gather Formula.never = [] := h _ []

theorem oneOf (h : Gathers gather) (fs : List Formula) :
    gather (.oneOf fs) = fs.flatMap gather := by
  match fs with
  | [] => exact h.never
  | [f] => simp [Formula.oneOf]
  | f :: g :: rest => exact h _ _

theorem allOf (h : Gathers gather) (fs : List Formula) :
    gather (.allOf fs) = fs.flatMap gather := by
  match fs with
  | [] => exact h.always
  | [f] => simp [Formula.allOf]
  | f :: g :: rest => exact h _ _

end Gathers

/-- Is the formula a call of a function without arguments? -/
def isBareCall (function : List Char) : Formula → Bool
  | .call name [] => name == function
  | _ => false

theorem isBareCall_iff {function : List Char} {f : Formula} :
    f.isBareCall function = true ↔ f = .call function [] := by
  constructor
  · intro h
    unfold isBareCall at h
    split at h
    · rw [eq_of_beq h]
    · cases h
  · rintro rfl
    simp [isBareCall]

end Formula

/-- The tree of several trees under a combination, without the sentinels that change nothing. -/
def Combination.joined (c : Combination) (trees : List Formula) : Formula :=
  match c with
  | .and => .allOf (trees.filter fun t => !t.isBareCall "TRUE".toList)
  | .or => .oneOf (trees.filter fun t => !t.isBareCall "FALSE".toList)

namespace Combination

open Grammar

/-- For well-formed formulas, what is written like a sentinel is that sentinel. -/
theorem relevant_eq {function : List Char} {fs : List Formula}
    (neutral : WellFormed (.call function [])) (h : ∀ f ∈ fs, WellFormed f) :
    Formula.relevant (.call function []) fs = fs.filter fun f => !f.isBareCall function := by
  unfold Formula.relevant
  apply List.filter_congr
  intro f mem
  have written : f.chars.isEmpty = false := by
    rw [List.isEmpty_eq_false_iff]
    exact chars_ne_nil (h f mem)
  rw [written, Bool.not_false, Bool.true_and, bne]
  congr 1
  rw [Bool.eq_iff_iff, beq_iff_eq, Formula.isBareCall_iff]
  constructor
  · exact chars_inj (h f mem) neutral
  · rintro rfl
    rfl

theorem combine_eq_joined (c : Combination) {fs : List Formula} (h : ∀ f ∈ fs, WellFormed f) :
    c.combine fs = c.joined fs := by
  cases c with
  | and => exact congrArg Formula.allOf (relevant_eq wellFormed_always h)
  | or => exact congrArg Formula.oneOf (relevant_eq wellFormed_never h)

theorem wellFormed_joined (c : Combination) {fs : List Formula} (h : ∀ f ∈ fs, WellFormed f) :
    WellFormed (c.joined fs) := by
  cases c with
  | and => exact wellFormed_allOf fun f mem => h f (List.mem_of_mem_filter mem)
  | or => exact wellFormed_oneOf fun f mem => h f (List.mem_of_mem_filter mem)

end Combination

/-- Nothing is lost with a sentinel that is dropped. -/
theorem Formula.Gathers.filter {α : Type} {gather : Formula → List α} (h : Gathers gather)
    (function : List Char) (fs : List Formula) :
    (fs.filter fun f => !f.isBareCall function).flatMap gather = fs.flatMap gather := by
  induction fs with
  | nil => rfl
  | cons f rest ih =>
    rw [List.filter_cons, List.flatMap_cons]
    cases bare : f.isBareCall function with
    | false =>
      simp only [Bool.not_false, if_true]
      rw [List.flatMap_cons, ih]
    | true =>
      have nothing : gather f = [] := by
        rw [isBareCall_iff.mp bare]
        exact h _ []
      simp only [Bool.not_true, Bool.false_eq_true, if_false]
      rw [nothing, List.nil_append, ih]

theorem Formula.Gathers.joined {α : Type} {gather : Formula → List α} (h : Gathers gather)
    (c : Combination) (fs : List Formula) : gather (c.joined fs) = fs.flatMap gather := by
  cases c with
  | and => exact (h.allOf _).trans (h.filter _ _)
  | or => exact (h.oneOf _).trans (h.filter _ _)

end BaseGateway
