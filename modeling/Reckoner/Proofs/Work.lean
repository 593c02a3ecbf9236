/-! Inversion of binds in `Except` and `EStateM`, and folds in `Except`. -/
namespace Reckoner

variable {ε σ α β : Type}

theorem ok_bind (a : α) (f : α → Except ε β) : (Except.ok a >>= f) = f a := rfl

theorem except_bind_ok {x : Except ε α} {f : α → Except ε β} {b : β} :
    (x >>= f) = .ok b ↔ ∃ a, x = .ok a ∧ f a = .ok b := by
  cases x <;> simp [bind,Except.bind]

theorem except_bind_error {x : Except ε α} {f : α → Except ε β} {e : ε} :
    (x >>= f) = .error e ↔ x = .error e ∨ ∃ a, x = .ok a ∧ f a = .error e := by
  cases x <;> simp [bind,Except.bind]

theorem foldlM_error {step : σ → α → Except ε σ} {s : σ} {xs : List α} {e : ε}
    (failed : xs.foldlM step s = .error e) : ∃ front x back middle, xs = front ++ x :: back ∧
      front.foldlM step s = .ok middle ∧ step middle x = .error e := by
  induction xs generalizing s with
  | nil => cases failed
  | cons x xs ih =>
    rw [List.foldlM_cons] at failed
    cases stepped : step s x with
    | error f =>
      rw [stepped] at failed
      cases failed
      exact ⟨[],x,xs,s,rfl,rfl,stepped⟩
    | ok next =>
      rw [stepped] at failed
      obtain ⟨front,y,back,middle,rfl,folded,refused⟩ := ih failed
      refine ⟨x :: front,y,back,middle,rfl,?_,refused⟩
      rw [List.foldlM_cons,stepped]
      exact folded

theorem work_bind_ok {x : EStateM ε σ α} {f : α → EStateM ε σ β} {s final : σ} {b : β} :
    (x >>= f) s = .ok b final ↔ ∃ a middle, x s = .ok a middle ∧ f a middle = .ok b final := by
  change EStateM.bind x f s = .ok b final ↔ _
  unfold EStateM.bind
  cases x s <;> simp [and_assoc]

theorem work_bind_error {x : EStateM ε σ α} {f : α → EStateM ε σ β} {s final : σ} {e : ε} :
    (x >>= f) s = .error e final ↔
      x s = .error e final ∨ ∃ a middle, x s = .ok a middle ∧ f a middle = .error e final := by
  change EStateM.bind x f s = .error e final ↔ _
  unfold EStateM.bind
  cases x s <;> simp [and_assoc]

theorem work_bind_eq {x : EStateM ε σ α} {f : α → EStateM ε σ β} {s middle : σ} {a : α}
    (success : x s = .ok a middle) : (x >>= f) s = f a middle := by
  change EStateM.bind x f s = _
  rw [EStateM.bind,success]

theorem ofExcept_ok {x : Except ε α} {s final : σ} {a : α} :
    (MonadExcept.ofExcept x : EStateM ε σ α) s = .ok a final ↔ x = .ok a ∧ final = s := by
  cases x with
  | error e => exact ⟨nofun,nofun⟩
  | ok b =>
    change EStateM.Result.ok b s = .ok a final ↔ _
    simp [eq_comm]

theorem ofExcept_error {x : Except ε α} {s final : σ} {e : ε} :
    (MonadExcept.ofExcept x : EStateM ε σ α) s = .error e final ↔ x = .error e ∧ final = s := by
  cases x with
  | ok a => exact ⟨nofun,nofun⟩
  | error d =>
    change EStateM.Result.error d s = .error e final ↔ _
    simp [eq_comm]

instance decidableEqResult [DecidableEq ε] [DecidableEq σ] [DecidableEq α] :
    DecidableEq (EStateM.Result ε σ α)
  | .ok a s, .ok b t => decidable_of_iff (a = b ∧ s = t) (by rw [EStateM.Result.ok.injEq])
  | .error e s, .error f t => decidable_of_iff (e = f ∧ s = t) (by rw [EStateM.Result.error.injEq])
  | .ok _ _, .error _ _ | .error _ _, .ok _ _ => isFalse nofun

end Reckoner
