import DeviceGraph.Engine
import DeviceGraph.Proofs.Checks

/-!
# When actions on the engine succeed

A sequence of actions succeeds exactly when each action does, one after the
other. Running a statement submits it and nothing else, whatever the answer is.
-/

set_option autoImplicit false

namespace DeviceGraph.Session

variable {ε ε' α β : Type}

theorem bind_apply (x : Session ε α) (f : α → Session ε β) (e : Engine) :
    (x >>= f) e = match x e with
      | (.ok a, e₁) => f a e₁
      | (.error fault, e₁) => (.error fault, e₁) := by
  show ExceptT.bindCont f (x e).1 (x e).2 = _
  rcases x e with ⟨result, e₁⟩
  cases result <;> rfl

theorem bind_eq_ok_iff (x : Session ε α) (f : α → Session ε β) (e e' : Engine) (b : β) :
    (x >>= f) e = (.ok b, e') ↔ ∃ a e₁, x e = (.ok a, e₁) ∧ f a e₁ = (.ok b, e') := by
  rw [bind_apply]
  rcases x e with ⟨result, e₁⟩
  cases result with
  | error fault =>
    constructor
    · intro h
      cases h
    · rintro ⟨a, e₂, hx, _⟩
      cases hx
  | ok a =>
    constructor
    · exact fun h => ⟨a, e₁, rfl, h⟩
    · rintro ⟨a', e₂, hx, h⟩
      cases hx
      exact h

theorem pure_eq_ok_iff (a b : α) (e e' : Engine) :
    (pure a : Session ε α) e = (.ok b, e') ↔ a = b ∧ e = e' := by
  have hpure : (pure a : Session ε α) e = (.ok a, e) := rfl
  rw [hpure, Prod.mk.injEq, Except.ok.injEq]

theorem ofExcept_eq_ok_iff (result : Except ε α) (a : α) (e e' : Engine) :
    ofExcept result e = (.ok a, e') ↔ result = .ok a ∧ e = e' := by
  rw [ofExcept, Prod.mk.injEq]

theorem ofExcept_bind_pure (result : Except ε α) (f : α → β) :
    (ofExcept result >>= fun a => pure (f a)) = ofExcept (f <$> result) := by
  cases result <;> rfl

theorem ofExcept_bind_ofExcept (result : Except ε α) (f : α → Except ε β) :
    (ofExcept result >>= fun a => ofExcept (f a)) = ofExcept (result >>= f) := by
  cases result <;> rfl

theorem edgeIds_eq_ok_iff (ids : Nat → String) (e e' : Engine) :
    (edgeIds : Session ε (Nat → String)) e = (.ok ids, e') ↔ e.edgeIds = ids ∧ e = e' := by
  rw [edgeIds, Prod.mk.injEq, Except.ok.injEq]

theorem mapError_eq_ok_iff (f : ε → ε') (x : Session ε α) (a : α) (e e' : Engine) :
    x.mapError f e = (.ok a, e') ↔ x e = (.ok a, e') := by
  have hmap : x.mapError f e = ((x e).1.mapError f, (x e).2) := rfl
  rw [hmap, Prod.mk.injEq, Checks.mapError_eq_ok_iff]
  constructor
  · rintro ⟨h, rfl⟩
    rw [← h]
    rfl
  · intro h
    rw [h]
    exact ⟨rfl, rfl⟩

/-- The engine after a submission has recorded it behind the others. -/
theorem submitted_run (operation : String) (s : Statement) (e : Engine) :
    (run operation s e).2.submitted = e.submitted ++ [s] := by
  have hsubmit : (e.openSession.submit s).2.submitted = e.submitted ++ [s] := by
    unfold Engine.submit
    dsimp only
    split <;> rfl
  have hrun : (run operation s e).2 = (e.openSession.submit s).2.release operation := rfl
  rw [hrun, Engine.release]
  split <;> exact hsubmit

end DeviceGraph.Session
