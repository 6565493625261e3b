import BaseGateway.Proofs.Json.RoundTrip
import BaseGateway.Proofs.Keeping

/-!
# What computations give

A computation gives results with a property where it keeps a property of the state, every result
has the property, and every failure can be told to a client. Computations that are put
together from such computations are such computations; the same is told of outcomes by themselves.
-/

namespace BaseGateway

/-- A refusal whose report can be written and read back: a time to wait has few digits. -/
def Refusal.IsReportable : Refusal → Prop
  | .throttled _ retryAfter => ∀ n ∈ retryAfter, Json.IsExact n.toValue
  | _ => True

def Failure.IsReportable : Failure → Prop
  | .refused r => r.IsReportable
  | .fault _ => True

section

variable {α β : Type} {Q R : α → Prop}

/-- A result with a property, or a failure that can be told. -/
def Outcome (Q : α → Prop) : Except Failure α → Prop
  | .ok a => Q a
  | .error e => e.IsReportable

namespace Outcome

theorem mono {x : Except Failure α} (h : Outcome Q x) (weaker : ∀ a, Q a → R a) : Outcome R x := by
  cases x with
  | ok a => exact weaker a h
  | error e => exact h

theorem bind {S : β → Prop} {x : Except Failure α} {next : α → Except Failure β}
    (first : Outcome Q x) (second : ∀ a, Q a → Outcome S (next a)) : Outcome S (x >>= next) := by
  cases x with
  | ok a => exact second a first
  | error e => exact first

/-- Every fault can be told. -/
theorem ofFault {x : Except Fault α} (h : ∀ a, x = .ok a → Q a) : Outcome Q (Except.orFault x) := by
  cases x with
  | ok a => exact h a rfl
  | error f => trivial

theorem ofFault_any (x : Except Fault α) : Outcome (fun _ => True) (Except.orFault x) :=
  ofFault fun _ _ => trivial

theorem ofRefusal {x : Except Refusal α} (h : ∀ a, x = .ok a → Q a)
    (told : ∀ r, x = .error r → r.IsReportable) : Outcome Q (Except.orRefused x) := by
  cases x with
  | ok a => exact h a rfl
  | error r => exact told r rfl

theorem mapM {S : β → Prop} {f : α → Except Failure β} {xs : List α}
    (each : ∀ x ∈ xs, Outcome S (f x)) :
    Outcome (fun ys => ∀ y ∈ ys, S y) (xs.mapM f) := by
  induction xs with
  | nil =>
    rw [List.mapM_nil]
    exact List.forall_mem_nil _
  | cons x xs ih =>
    rw [List.mapM_cons]
    have tail := ih fun y mem => each y (List.mem_cons_of_mem x mem)
    refine (each x List.mem_cons_self).bind fun y first => tail.bind fun ys others => ?_
    exact List.forall_mem_cons.mpr ⟨first, others⟩

end Outcome

end

section

variable {σ α β : Type} {I : σ → Prop} {Q R : α → Prop}

/-- A computation that keeps a property of the state and gives results with another one. -/
def Gives (I : σ → Prop) (Q : α → Prop) (x : ExceptT Failure (StateM σ) α) : Prop :=
  ∀ s, I s → I (x.run.run s).2 ∧ Outcome Q (x.run.run s).1

namespace Gives

theorem mono {x : ExceptT Failure (StateM σ) α} (h : Gives I Q x) (weaker : ∀ a, Q a → R a) :
    Gives I R x :=
  fun s held => ⟨(h s held).1, (h s held).2.mono weaker⟩

theorem pure {a : α} (h : Q a) : Gives I Q (pure a : ExceptT Failure (StateM σ) α) :=
  fun _ held => ⟨held, h⟩

theorem throw {e : Failure} (h : e.IsReportable) :
    Gives I Q (throw e : ExceptT Failure (StateM σ) α) := fun _ held => ⟨held, h⟩

/-- A state that is looked at has the property that is kept. -/
theorem get : Gives I I (MonadState.get : ExceptT Failure (StateM σ) σ) :=
  fun _ held => ⟨held, held⟩

theorem set {s : σ} (h : I s) :
    Gives I (fun _ => True) (MonadState.set s : ExceptT Failure (StateM σ) PUnit) :=
  fun _ _ => ⟨h, trivial⟩

theorem modify {f : σ → σ} (h : ∀ s, I s → I (f s)) :
    Gives I (fun _ => True) (modify f : ExceptT Failure (StateM σ) Unit) :=
  fun s held => ⟨h s held, trivial⟩

theorem bind {S : β → Prop} {x : ExceptT Failure (StateM σ) α}
    {next : α → ExceptT Failure (StateM σ) β} (first : Gives I Q x)
    (second : ∀ a, Q a → Gives I S (next a)) : Gives I S (x >>= next) := by
  intro s held
  obtain ⟨kept, given⟩ := first s held
  rw [run_bind]
  rcases outcome : x.run.run s with ⟨e | a, s'⟩
  · rw [outcome] at kept given
    exact ⟨kept, given⟩
  · rw [outcome] at kept given
    exact second a given s' kept

theorem tryCatch {x : ExceptT Failure (StateM σ) α}
    {handler : Failure → ExceptT Failure (StateM σ) α} (first : Gives I Q x)
    (second : ∀ e, e.IsReportable → Gives I Q (handler e)) : Gives I Q (tryCatch x handler) := by
  intro s held
  obtain ⟨kept, given⟩ := first s held
  rw [run_tryCatch]
  rcases outcome : x.run.run s with ⟨e | a, s'⟩
  · rw [outcome] at kept given
    exact second e given s' kept
  · rw [outcome] at kept given
    exact ⟨kept, given⟩

theorem mapM {S : β → Prop} {f : α → ExceptT Failure (StateM σ) β} {xs : List α}
    (each : ∀ x ∈ xs, Gives I S (f x)) :
    Gives I (fun ys => ∀ y ∈ ys, S y) (xs.mapM f) := by
  induction xs with
  | nil =>
    rw [List.mapM_nil]
    exact pure (List.forall_mem_nil _)
  | cons x xs ih =>
    rw [List.mapM_cons]
    have tail := ih fun y mem => each y (List.mem_cons_of_mem x mem)
    refine (each x List.mem_cons_self).bind fun y first => tail.bind fun ys others => pure ?_
    exact List.forall_mem_cons.mpr ⟨first, others⟩

end Gives

end

end BaseGateway
