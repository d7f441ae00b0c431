namespace PlayerHub.Perform

variable {ε σ α β : Type} {act : ExceptT ε (StateM σ) α} {s s' : σ}

theorem bind_of_ok {a : α} (hact : act s = (.ok a, s')) (f : α → ExceptT ε (StateM σ) β) :
    (act >>= f) s = f a s' := by
  simp only [bind, ExceptT.bind, ExceptT.mk, StateT.bind, hact]
  rfl

theorem bind_of_error {e : ε} (hact : act s = (.error e, s'))
    (f : α → ExceptT ε (StateM σ) β) : (act >>= f) s = (.error e, s') := by
  simp only [bind, ExceptT.bind, ExceptT.mk, StateT.bind, hact]
  rfl

theorem get_bind (f : σ → ExceptT ε (StateM σ) β) (s : σ) : (get >>= f) s = f s s := rfl

end PlayerHub.Perform
