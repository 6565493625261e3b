import Mathlib.Data.List.Forall2
import BaseGateway.Journal

/-!
# Runs of computations

A computation over a state may fail, and the state that it leaves behind counts either way. Its run
from a state gives the outcome and the last state; the lemmas open a run along the steps that the
computation is made of.
-/

namespace BaseGateway

variable {σ ε α β : Type}

/-- The run of one computation behind another. -/
theorem run_bind (x : ExceptT ε (StateM σ) α) (next : α → ExceptT ε (StateM σ) β) (s : σ) :
    (x >>= next).run.run s =
      match x.run.run s with
      | (.ok a, s') => (next a).run.run s'
      | (.error e, s') => (.error e, s') := by
  simp only [ExceptT.run_bind, StateT.run_bind]
  rcases x.run.run s with ⟨_ | _, s'⟩ <;> rfl

theorem run_pure (a : α) (s : σ) :
    (pure a : ExceptT ε (StateM σ) α).run.run s = (.ok a, s) := rfl

theorem run_get (s : σ) :
    (get : ExceptT ε (StateM σ) σ).run.run s = (.ok s, s) := rfl

theorem run_set (s s' : σ) :
    (set s' : ExceptT ε (StateM σ) PUnit).run.run s = (.ok (), s') := rfl

theorem run_modify (f : σ → σ) (s : σ) :
    (modify f : ExceptT ε (StateM σ) Unit).run.run s = (.ok (), f s) := rfl

/-- A run that succeeds is made of two that do. -/
theorem run_bind_ok {x : ExceptT Failure (StateM σ) α}
    {next : α → ExceptT Failure (StateM σ) β} {s s'' : σ} {b : β}
    (h : (x >>= next).run.run s = (.ok b, s'')) :
    ∃ a s', x.run.run s = (.ok a, s') ∧ (next a).run.run s' = (.ok b, s'') := by
  rw [run_bind] at h
  rcases first : x.run.run s with ⟨_ | a, s'⟩
  · rw [first] at h
    cases h
  · rw [first] at h
    exact ⟨a, s', rfl, h⟩

/-- A computation whose outcome does not depend on the state that it starts from. -/
def Settled (x : ExceptT Failure (StateM σ) α) (outcome : Except Failure α) : Prop :=
  ∀ s, ∃ s', x.run.run s = (outcome, s')

theorem Settled.bind_error {x : ExceptT Failure (StateM σ) α} {e : Failure}
    (h : Settled x (.error e)) (next : α → ExceptT Failure (StateM σ) β) :
    Settled (x >>= next) (.error e) := by
  intro s
  obtain ⟨s', first⟩ := h s
  exact ⟨s', by rw [run_bind, first]⟩

theorem Settled.bind_ok {x : ExceptT Failure (StateM σ) α} {a : α} (h : Settled x (.ok a))
    {next : α → ExceptT Failure (StateM σ) β} {outcome : Except Failure β}
    (then' : Settled (next a) outcome) : Settled (x >>= next) outcome := by
  intro s
  obtain ⟨s', first⟩ := h s
  obtain ⟨s'', second⟩ := then' s'
  exact ⟨s'', by rw [run_bind, first]; exact second⟩

/-- Steps whose outcomes are settled settle the outcome of the whole. -/
theorem Settled.bind {x : ExceptT Failure (StateM σ) α}
    {next : α → ExceptT Failure (StateM σ) β} (first : ∃ outcome, Settled x outcome)
    (second : ∀ a, ∃ outcome, Settled (next a) outcome) :
    ∃ outcome, Settled (x >>= next) outcome := by
  obtain ⟨_ | a, settled⟩ := first
  · exact ⟨_, settled.bind_error next⟩
  · obtain ⟨outcome, rest⟩ := second a
    exact ⟨outcome, settled.bind_ok rest⟩

theorem Settled.mapM {f : α → ExceptT Failure (StateM σ) β} {xs : List α} {ys : List β}
    (each : List.Forall₂ (fun x y => Settled (f x) (.ok y)) xs ys) :
    Settled (xs.mapM f) (.ok ys) := by
  induction each with
  | nil =>
    rw [List.mapM_nil]
    exact fun s => ⟨s, rfl⟩
  | cons first _ ih =>
    rw [List.mapM_cons]
    exact first.bind_ok (ih.bind_ok fun s => ⟨s, rfl⟩)

/-- Items whose outcomes are settled settle the outcome of going through them. -/
theorem Settled.mapM_any {f : α → ExceptT Failure (StateM σ) β}
    (each : ∀ x, ∃ outcome, Settled (f x) outcome) (xs : List α) :
    ∃ outcome, Settled (xs.mapM f) outcome := by
  induction xs with
  | nil =>
    rw [List.mapM_nil]
    exact ⟨.ok [], fun s => ⟨s, rfl⟩⟩
  | cons x xs ih =>
    rw [List.mapM_cons]
    exact Settled.bind (each x) fun y => Settled.bind ih fun ys =>
      ⟨.ok (y :: ys), fun s => ⟨s, rfl⟩⟩

/-- Where the outcome is settled, one run tells it. -/
theorem Settled.of_run {x : ExceptT Failure (StateM σ) α} (h : ∃ outcome, Settled x outcome)
    {s s' : σ} {outcome : Except Failure α} (ran : x.run.run s = (outcome, s')) :
    Settled x outcome := by
  obtain ⟨other, settled⟩ := h
  obtain ⟨t, again⟩ := settled s
  obtain rfl : other = outcome := (Prod.mk.inj (again.symm.trans ran)).1
  exact settled

/-- Where a list is gone through with success, every item gave its result in some run. -/
theorem run_mapM_ok {f : α → ExceptT Failure (StateM σ) β} {xs : List α} {ys : List β} {s s' : σ}
    (h : (xs.mapM f).run.run s = (.ok ys, s')) :
    List.Forall₂ (fun x y => ∃ t t', (f x).run.run t = (.ok y, t')) xs ys := by
  induction xs generalizing ys s with
  | nil =>
    rw [List.mapM_nil, run_pure] at h
    cases h
    exact .nil
  | cons x xs ih =>
    rw [List.mapM_cons] at h
    obtain ⟨y, t, first, h⟩ := run_bind_ok h
    obtain ⟨rest, t', others, h⟩ := run_bind_ok h
    rw [run_pure] at h
    cases h
    exact .cons ⟨s, t, first⟩ (ih others)

namespace Logged

theorem run_ofExcept (x : Except Failure α) (j : Journal) : (ofExcept x).run.run j = (x, j) := rfl

theorem run_ofFault (x : Except Fault α) (j : Journal) :
    (ofFault x).run.run j = (Except.orFault x, j) := rfl

theorem run_ofRefusal (x : Except Refusal α) (j : Journal) :
    (ofRefusal x).run.run j = (Except.orRefused x, j) := rfl

theorem settled_ofExcept (x : Except Failure α) : Settled (ofExcept x) x := fun j => ⟨j, rfl⟩

theorem settled_ofFault (x : Except Fault α) : Settled (ofFault x) (Except.orFault x) :=
  fun j => ⟨j, rfl⟩

theorem settled_ofRefusal (x : Except Refusal α) : Settled (ofRefusal x) (Except.orRefused x) :=
  fun j => ⟨j, rfl⟩

theorem run_note (level : Level) (message : String) (j : Journal) :
    (note level message).run.run j = (.ok (), j.write level message) := rfl

end Logged

theorem orFault_ok (a : α) : Except.orFault (.ok a) = .ok a := rfl

theorem orFault_eq_ok {x : Except Fault α} {a : α} : Except.orFault x = .ok a ↔ x = .ok a := by
  cases x <;> simp [Except.orFault, Except.mapError]

theorem orRefused_eq_ok {x : Except Refusal α} {a : α} :
    Except.orRefused x = .ok a ↔ x = .ok a := by
  cases x <;> simp [Except.orRefused, Except.mapError]

theorem orRefused_bind (x : Except Refusal α) (next : α → Except Refusal β) :
    Except.orRefused (x >>= next) = Except.orRefused x >>= fun a => Except.orRefused (next a) := by
  cases x <;> rfl

/-- Opens a computation that succeeded at its first step. -/
theorem Except.bind_ok {ε α β : Type} {x : Except ε α} {next : α → Except ε β} {b : β}
    (h : (x >>= next) = .ok b) : ∃ a, x = .ok a ∧ next a = .ok b := by
  cases x with
  | error e => cases h
  | ok a => exact ⟨a, rfl, h⟩

/-- Every item of a list that is gone through with success has its result. -/
theorem Except.mapM_forall₂ {ε α β : Type} {f : α → Except ε β} {xs : List α} {ys : List β}
    (h : xs.mapM f = .ok ys) : List.Forall₂ (fun x y => f x = .ok y) xs ys := by
  induction xs generalizing ys with
  | nil =>
    rw [List.mapM_nil] at h
    cases h
    exact .nil
  | cons x xs ih =>
    rw [List.mapM_cons] at h
    obtain ⟨y, first, h⟩ := Except.bind_ok h
    obtain ⟨rest, others, h⟩ := Except.bind_ok h
    obtain rfl := Except.ok.inj h
    exact .cons first (ih others)

/-- A list whose items all have their results is gone through with success. -/
theorem Except.mapM_of_forall₂ {ε α β : Type} {f : α → Except ε β} {xs : List α} {ys : List β}
    (each : List.Forall₂ (fun x y => f x = .ok y) xs ys) : xs.mapM f = .ok ys := by
  induction each with
  | nil => rfl
  | cons first _ ih =>
    rw [List.mapM_cons, first, ih]
    rfl

/-- A list is gone through up to the first item that fails. -/
theorem Except.mapM_error_iff {ε α β : Type} {f : α → Except ε β} {xs : List α} {e : ε} :
    xs.mapM f = .error e ↔ ∃ before x after, xs = before ++ x :: after ∧
      (∀ y ∈ before, ∃ b, f y = .ok b) ∧ f x = .error e := by
  constructor
  · intro h
    induction xs with
    | nil => cases h
    | cons x xs ih =>
      rw [List.mapM_cons] at h
      cases first : f x with
      | error e' =>
        rw [first] at h
        obtain rfl := Except.error.inj h
        exact ⟨[], x, xs, rfl, List.forall_mem_nil _, first⟩
      | ok b =>
        have others : xs.mapM f = .error e := by
          rw [first] at h
          cases rest : xs.mapM f with
          | error e' =>
            rw [rest] at h
            exact h
          | ok ys =>
            rw [rest] at h
            cases h
        obtain ⟨before, y, after, rfl, passed, fails⟩ := ih others
        exact ⟨x :: before, y, after, rfl, List.forall_mem_cons.mpr ⟨⟨b, first⟩, passed⟩, fails⟩
  · rintro ⟨before, x, after, rfl, passed, fails⟩
    induction before with
    | nil =>
      rw [List.nil_append, List.mapM_cons, fails]
      rfl
    | cons y before ih =>
      rw [List.forall_mem_cons] at passed
      obtain ⟨⟨b, first⟩, passed⟩ := passed
      rw [List.cons_append, List.mapM_cons, first, ih passed]
      rfl

/-- What each item gives to its result, every result has. -/
theorem forall_of_forall₂ {α β : Type} {R : α → β → Prop} {S : β → Prop} {xs : List α} {ys : List β}
    (each : ∀ x ∈ xs, ∀ y, R x y → S y) (h : List.Forall₂ R xs ys) : ∀ y ∈ ys, S y := by
  induction h with
  | nil => exact List.forall_mem_nil _
  | cons first others ih =>
    rw [List.forall_mem_cons] at each
    exact List.forall_mem_cons.mpr ⟨each.1 _ first, ih each.2⟩

/-- The results have what each item's result has. -/
theorem Except.mapM_each {ε α β : Type} {S : β → Prop} {f : α → Except ε β} {xs : List α}
    {ys : List β} (each : ∀ x ∈ xs, ∀ y, f x = .ok y → S y) (h : xs.mapM f = .ok ys) :
    ∀ y ∈ ys, S y :=
  forall_of_forall₂ each (Except.mapM_forall₂ h)

/-- A list is gone through with a test that agrees with a predicate: every item has its answer, and
those stay that the predicate holds of. -/
theorem Except.filterM_ok_iff {ε α : Type} {f : α → Except ε Bool} {p : α → Bool}
    (agrees : ∀ x b, f x = .ok b → b = p x) {xs ys : List α} :
    xs.filterM f = .ok ys ↔ (∀ x ∈ xs, f x = .ok (p x)) ∧ ys = xs.filter p := by
  have aux (xs : List α) : ∀ acc zs, xs.filterAuxM f acc = .ok zs ↔
      (∀ x ∈ xs, f x = .ok (p x)) ∧ zs = (xs.filter p).reverse ++ acc := by
    induction xs with
    | nil => simp [List.filterAuxM, Except.pure, Pure.pure, eq_comm]
    | cons x xs ih =>
      intro acc zs
      rw [List.filterAuxM]
      cases tested : f x with
      | error e => simp [Bind.bind, Except.bind, tested]
      | ok b =>
        obtain rfl := agrees x b tested
        change xs.filterAuxM f (cond (p x) (x :: acc) acc) = .ok zs ↔ _
        rw [ih]
        cases kept : p x <;> simp [tested, kept]
  have run : xs.filterM f = (do return (← xs.filterAuxM f []).reverse) := rfl
  rw [run]
  constructor
  · intro h
    obtain ⟨zs, gone, h⟩ := Except.bind_ok h
    obtain ⟨each, rfl⟩ := (aux xs [] zs).mp gone
    obtain rfl := Except.ok.inj h
    exact ⟨each, by simp⟩
  · rintro ⟨each, rfl⟩
    rw [(aux xs [] _).mpr ⟨each, rfl⟩]
    change Except.ok _ = _
    simp

end BaseGateway
