namespace PlayerHub

theorem lookup_cons_eq_ite {κ ν : Type} [DecidableEq κ] (k k' : κ) (v : ν) (es : List (κ × ν)) :
    ((k, v) :: es).lookup k' = if k' = k then some v else es.lookup k' := by
  rw [List.lookup_cons]
  by_cases h : k' = k
  · simp [h]
  · simp [beq_eq_false_iff_ne.2 h, h]

end PlayerHub
