import BaseGateway.Proofs.Run

/-!
# Properties that computations keep

A computation keeps a property of the state when the state that it leaves behind has it, after a
failure just as after a success. Computations that are put together from such computations are such
computations.
-/

namespace BaseGateway

variable {σ α β : Type} {I : σ → Prop}

/-- The run of a computation whose failure is seen to. -/
theorem run_tryCatch (x : ExceptT Failure (StateM σ) α)
    (handler : Failure → ExceptT Failure (StateM σ) α) (s : σ) :
    (tryCatch x handler).run.run s =
      match x.run.run s with
      | (.ok a, s') => (.ok a, s')
      | (.error e, s') => (handler e).run.run s' := by
  rw [ExceptT.run_tryCatch, StateT.run_bind]
  rcases x.run.run s with ⟨_ | _, s'⟩ <;> rfl

/-- A computation that keeps a property of the state. -/
def Keeps (I : σ → Prop) (x : ExceptT Failure (StateM σ) α) : Prop := ∀ s, I s → I (x.run.run s).2

namespace Keeps

theorem pure (a : α) : Keeps I (pure a : ExceptT Failure (StateM σ) α) := fun _ held => held

theorem get : Keeps I (MonadState.get : ExceptT Failure (StateM σ) σ) := fun _ held => held

theorem modify {f : σ → σ} (h : ∀ s, I s → I (f s)) :
    Keeps I (modify f : ExceptT Failure (StateM σ) Unit) := h

theorem bind {x : ExceptT Failure (StateM σ) α} {next : α → ExceptT Failure (StateM σ) β}
    (first : Keeps I x) (second : ∀ a, Keeps I (next a)) : Keeps I (x >>= next) := by
  intro s held
  have kept := first s held
  rw [run_bind]
  rcases outcome : x.run.run s with ⟨_ | a, s'⟩
  · rwa [outcome] at kept
  · rw [outcome] at kept
    exact second a s' kept

end Keeps

end BaseGateway
