/-!
# Runs that end well

A step that may fail, alone or with a state that outlives the failure. A sequence of steps ends well just if each of
them does (`exists_of_bind_eq_ok`, `run_bind_eq_ok`), and it fails with its first step that fails.
-/

namespace TypeComments

theorem eq_ok_of_toOption {ε α : Type} {x : Except ε α} {a : α} (h : x.toOption = some a) : x = .ok a := by
  cases x with
  | error e => cases h
  | ok b =>
    cases h
    rfl

theorem exists_of_bind_eq_ok {ε α β : Type} {x : Except ε α} {f : α → Except ε β} {b : β} (h : x >>= f = .ok b) :
    ∃ a, x = .ok a ∧ f a = .ok b := by
  cases x with
  | error e => cases h
  | ok a => exact ⟨a, rfl, h⟩

section
variable {ε σ α β : Type} {x : ExceptT ε (StateM σ) α} {f : α → ExceptT ε (StateM σ) β} {s s' : σ}

theorem run_bind_of_ok {a : α} (h : x.run.run s = (.ok a, s')) : (x >>= f).run.run s = (f a).run.run s' := by
  simp only [ExceptT.run_bind, StateT.run_bind, h]
  rfl

theorem run_bind_of_error {e : ε} (h : x.run.run s = (.error e, s')) : (x >>= f).run.run s = (.error e, s') := by
  simp only [ExceptT.run_bind, StateT.run_bind, h]
  rfl

theorem run_bind_eq_ok {b : β} (h : (x >>= f).run.run s = (.ok b, s')) :
    ∃ a s₁, x.run.run s = (.ok a, s₁) ∧ (f a).run.run s₁ = (.ok b, s') := by
  cases hx : x.run.run s with
  | mk r s₁ =>
    cases r with
    | ok a => exact ⟨a, s₁, rfl, (run_bind_of_ok hx).symm.trans h⟩
    | error e =>
      rw [run_bind_of_error hx] at h
      cases h

theorem run_eq_ok_of_toOption {a : α} (h : (x.run.run s).1.toOption = some a) : ∃ s', x.run.run s = (.ok a, s') :=
  ⟨(x.run.run s).2, Prod.ext (eq_ok_of_toOption h) rfl⟩

end

end TypeComments
