import BaseGateway.Proofs.Keeping

/-!
# Pairs of runs

Two computations are alike when from states that correspond they give outcomes that correspond and
leave states that do. Computations that are put together in the same way from such computations are
alike. With states that correspond only to themselves this tells of one computation what it keeps
(`Alike.keeps`).
-/

namespace BaseGateway

variable {σ α α' β β' : Type} {R : σ → σ → Prop} {Q : α → α' → Prop} {S : β → β' → Prop}

/-- Results that correspond, or the same failure. -/
def Corresponds (Q : α → α' → Prop) : Except Failure α → Except Failure α' → Prop
  | .ok a, .ok b => Q a b
  | .error e, .error f => e = f
  | _, _ => False

theorem Corresponds.eq {x y : Except Failure α} (h : Corresponds Eq x y) : x = y := by
  cases x <;> cases y <;> first | exact congrArg _ h | exact h.elim

theorem Corresponds.refl (x : Except Failure α) : Corresponds Eq x x := by
  cases x <;> exact rfl

/-- From states that correspond, outcomes that do, and states that do. -/
def Alike (R : σ → σ → Prop) (Q : α → α' → Prop) (x : ExceptT Failure (StateM σ) α)
    (y : ExceptT Failure (StateM σ) α') : Prop :=
  ∀ s t, R s t → R (x.run.run s).2 (y.run.run t).2 ∧ Corresponds Q (x.run.run s).1 (y.run.run t).1

namespace Alike

theorem pure {a : α} {b : α'} (h : Q a b) :
    Alike R Q (pure a : ExceptT Failure (StateM σ) α) (pure b) := fun _ _ related => ⟨related, h⟩

theorem throw (e : Failure) :
    Alike R Q (throw e : ExceptT Failure (StateM σ) α) (throw e) :=
  fun _ _ related => ⟨related, rfl⟩

/-- The states that are looked at correspond. -/
theorem get : Alike R R (MonadState.get : ExceptT Failure (StateM σ) σ) MonadState.get :=
  fun _ _ related => ⟨related, related⟩

theorem set {s t : σ} (h : R s t) :
    Alike R Eq (MonadState.set s : ExceptT Failure (StateM σ) PUnit) (MonadState.set t) :=
  fun _ _ _ => ⟨h, rfl⟩

theorem modify {f g : σ → σ} (h : ∀ s t, R s t → R (f s) (g t)) :
    Alike R Eq (modify f : ExceptT Failure (StateM σ) Unit) (modify g) :=
  fun s t related => ⟨h s t related, rfl⟩

theorem bind {x : ExceptT Failure (StateM σ) α} {y : ExceptT Failure (StateM σ) α'}
    {f : α → ExceptT Failure (StateM σ) β} {g : α' → ExceptT Failure (StateM σ) β'}
    (first : Alike R Q x y) (second : ∀ a b, Q a b → Alike R S (f a) (g b)) :
    Alike R S (x >>= f) (y >>= g) := by
  intro s t related
  obtain ⟨kept, same⟩ := first s t related
  rw [run_bind, run_bind]
  rcases left : x.run.run s with ⟨_ | a, s'⟩ <;> rcases right : y.run.run t with ⟨_ | b, t'⟩ <;>
    rw [left, right] at kept same
  · exact ⟨kept, same⟩
  · exact same.elim
  · exact same.elim
  · exact second a b same s' t' kept

/-- Behind the same results it is enough to go on alike from each of them. -/
theorem seq {x y : ExceptT Failure (StateM σ) α} {f : α → ExceptT Failure (StateM σ) β}
    {g : α → ExceptT Failure (StateM σ) β'} (first : Alike R Eq x y)
    (second : ∀ a, Alike R S (f a) (g a)) : Alike R S (x >>= f) (y >>= g) :=
  first.bind fun a _ same => same ▸ second a

theorem tryCatch {x : ExceptT Failure (StateM σ) α} {y : ExceptT Failure (StateM σ) α'}
    {handler : Failure → ExceptT Failure (StateM σ) α}
    {handler' : Failure → ExceptT Failure (StateM σ) α'} (first : Alike R Q x y)
    (second : ∀ e, Alike R Q (handler e) (handler' e)) :
    Alike R Q (tryCatch x handler) (tryCatch y handler') := by
  intro s t related
  obtain ⟨kept, same⟩ := first s t related
  rw [run_tryCatch, run_tryCatch]
  rcases left : x.run.run s with ⟨e | a, s'⟩ <;> rcases right : y.run.run t with ⟨f | b, t'⟩ <;>
    rw [left, right] at kept same
  · obtain rfl : e = f := same
    exact second e s' t' kept
  · exact same.elim
  · exact same.elim
  · exact ⟨kept, same⟩

theorem mapM {f g : α → ExceptT Failure (StateM σ) β} (each : ∀ a, Alike R Eq (f a) (g a))
    (xs : List α) : Alike R Eq (xs.mapM f) (xs.mapM g) := by
  induction xs with
  | nil =>
    rw [List.mapM_nil, List.mapM_nil]
    exact pure rfl
  | cons x xs ih =>
    rw [List.mapM_cons, List.mapM_cons]
    exact (each x).seq fun _ => ih.seq fun _ => pure rfl

/-- A computation that is like itself from equal states with a property keeps the property. -/
theorem keeps {I : σ → Prop} {Q : α → α → Prop} {x : ExceptT Failure (StateM σ) α}
    (h : Alike (fun s t => s = t ∧ I s) Q x x) : Keeps I x :=
  fun s held => (h s s ⟨rfl, held⟩).1.2

/-- From one state with the property they run in the same way. -/
theorem run_eq {I : σ → Prop} {x y : ExceptT Failure (StateM σ) α}
    (h : Alike (fun s t => s = t ∧ I s) Eq x y) {s : σ} (held : I s) :
    x.run.run s = y.run.run s := by
  obtain ⟨⟨last, -⟩, outcome⟩ := h s s ⟨rfl, held⟩
  exact Prod.ext outcome.eq last

theorem of_keeps {I : σ → Prop} {x : ExceptT Failure (StateM σ) α} (h : Keeps I x) :
    Alike (fun s t => s = t ∧ I s) Eq x x := by
  rintro s _ ⟨rfl, held⟩
  exact ⟨⟨rfl, h s held⟩, .refl _⟩

end Alike

end BaseGateway
