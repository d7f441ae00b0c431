import Mathlib.Algebra.GroupWithZero.Nat
import PlayerHub.Uuid

namespace PlayerHub

theorem Hex.mapM_digit?_lower (ds : List (Fin 16)) : (ds.map lower).mapM digit? = some ds := by
  induction ds with
  | nil => rfl
  | cons d ds ih => simp [List.mapM_cons, ih]

namespace Uuid

private theorem printGroups_cons_cons (n m : Nat) (ns : List Nat) (ds : List (Fin 16)) :
    printGroups (n :: m :: ns) ds =
      (ds.take n).map Hex.lower ++ '-' :: printGroups (m :: ns) (ds.drop n) := rfl

/-- Every group but the last is followed by a hyphen. -/
theorem length_printGroups {n : Nat} {ns : List Nat} {ds : List (Fin 16)}
    (h : ds.length = (n :: ns).sum) :
    (printGroups (n :: ns) ds).length = ds.length + ns.length := by
  induction ns generalizing n ds with
  | nil =>
    rw [printGroups, List.length_map, List.length_take]
    simp only [List.sum_cons, List.sum_nil, List.length_nil] at h ⊢
    omega
  | cons m ns ih =>
    simp only [List.sum_cons] at h
    have hrest := @ih m (ds.drop n) (by rw [List.length_drop, List.sum_cons]; omega)
    rw [printGroups_cons_cons, List.length_append, List.length_cons, hrest, List.length_map,
      List.length_take, List.length_drop, List.length_cons]
    omega

/-- The canonical text of a UUID is one that readers take, and they find the UUID in it. -/
theorem readGroups_printGroups {n : Nat} {ns : List Nat} {ds : List (Fin 16)}
    (h : ds.length = (n :: ns).sum) :
    readGroups (n :: ns) (printGroups (n :: ns) ds) = some ds := by
  induction ns generalizing n ds with
  | nil =>
    have hn : ds.length = n := by simpa using h
    have htake : ds.take n = ds := List.take_of_length_le (by omega)
    rw [printGroups, readGroups, htake, if_pos (by rw [List.length_map, hn]),
      Hex.mapM_digit?_lower]
  | cons m ns ih =>
    simp only [List.sum_cons] at h
    have hrest := @ih m (ds.drop n) (by rw [List.length_drop, List.sum_cons]; omega)
    have hlength : ((ds.take n).map Hex.lower).length = n := by
      rw [List.length_map, List.length_take]
      omega
    rw [printGroups_cons_cons, readGroups, List.take_left' hlength, List.drop_left' hlength,
      Hex.mapM_digit?_lower]
    · simp only [Option.bind_eq_bind, Option.bind_some, hrest, Option.pure_def,
        List.take_append_drop]
    · exact List.cons_ne_nil m ns

/-- Every UUID is read back from its canonical text. -/
theorem parse?_print (u : Uuid) : parse? u.print = some u := by
  have hlength : u.printChars.length = 36 := by
    have h := @length_printGroups 8 [4, 4, 4, 12] u.digits u.length_digits
    rw [u.length_digits] at h
    exact h
  have hread : readGroups groups u.printChars = some u.digits :=
    @readGroups_printGroups 8 [4, 4, 4, 12] u.digits u.length_digits
  rw [parse?, print, String.toList_ofList, readDigits?, if_neg (by omega), if_pos hlength, hread,
    Option.bind_some, ofDigits?, dif_pos u.length_digits]

@[simp] theorem ofJson?_toJson (u : Uuid) : ofJson? u.toJson = some u := by
  rw [ofJson?, toJson, Json.Value.str?_str, Option.bind_some, parse?_print]

end Uuid

end PlayerHub
