import Mathlib.Algebra.GroupWithZero.Nat
import PlayerHub.Text.Decimal

namespace PlayerHub.Decimal

theorem toNat_of_isDigit {c : Char} (hc : isDigit c = true) : 48 ≤ c.toNat ∧ c.toNat ≤ 57 := by
  rw [isDigit, Bool.and_eq_true, decide_eq_true_eq, decide_eq_true_eq] at hc
  exact hc

private theorem isDigit_lastDigit (n : Nat) : isDigit (lastDigit n) = true := by
  have hall : ∀ d : Fin 10, isDigit (Char.ofNat (48 + d.val)) = true := by decide
  exact hall ⟨n % 10, Nat.mod_lt n (by decide)⟩

private theorem digitValue_lastDigit (n : Nat) : digitValue (lastDigit n) = n % 10 := by
  have hall : ∀ d : Fin 10, digitValue (Char.ofNat (48 + d.val)) = d.val := by decide
  exact hall ⟨n % 10, Nat.mod_lt n (by decide)⟩

theorem value_append_singleton (s : List Char) (c : Char) :
    value (s ++ [c]) = 10 * value s + digitValue c := by
  rw [value, List.foldl_append]
  rfl

theorem digits_ne_nil (n : Nat) : digits n ≠ [] := by
  rw [digits]
  split
  · exact List.cons_ne_nil _ _
  · exact List.append_ne_nil_of_right_ne_nil _ (List.cons_ne_nil _ _)

theorem isDigit_of_mem_digits {n : Nat} {c : Char} (h : c ∈ digits n) : isDigit c = true := by
  fun_induction digits n with
  | case1 n hlt =>
    rw [List.mem_singleton.1 h]
    exact isDigit_lastDigit n
  | case2 n hlt ih =>
    rcases List.mem_append.1 h with h | h
    · exact ih h
    · rw [List.mem_singleton.1 h]
      exact isDigit_lastDigit n

theorem value_digits (n : Nat) : value (digits n) = n := by
  fun_induction digits n with
  | case1 n hlt =>
    have h := value_append_singleton [] (lastDigit n)
    rw [List.nil_append, digitValue_lastDigit] at h
    rw [h]
    simp only [value, List.foldl_nil]
    omega
  | case2 n hlt ih =>
    rw [value_append_singleton, ih, digitValue_lastDigit]
    omega

theorem value_dropLast_digits (n : Nat) : value (digits n).dropLast = n / 10 := by
  rw [digits]
  split
  · rw [List.dropLast_singleton, Nat.div_eq_of_lt (by assumption)]
    rfl
  · rw [List.dropLast_concat, value_digits]

/-- There are no leading zeros. -/
theorem digits_of_head?_eq_zero {n : Nat} (h : (digits n).head? = some '0') : digits n = ['0'] := by
  fun_induction digits n with
  | case1 n hlt =>
    rw [List.head?_cons, Option.some.injEq] at h
    rw [h]
  | case2 n hlt ih =>
    obtain ⟨d, ds, hds⟩ := List.exists_cons_of_ne_nil (digits_ne_nil (n / 10))
    rw [hds, List.cons_append, List.head?_cons] at h
    rw [hds, List.head?_cons] at ih
    have hzero := value_digits (n / 10)
    rw [hds, ih h] at hzero
    have : value ['0'] = 0 := rfl
    omega

variable {width n : Nat}

theorem length_digits_le (hn : n < 10 ^ width) (hwidth : 0 < width) :
    (digits n).length ≤ width := by
  fun_induction digits n generalizing width with
  | case1 n hlt => exact hwidth
  | case2 n hlt ih =>
    obtain ⟨width, rfl⟩ := Nat.exists_eq_succ_of_ne_zero (Nat.ne_of_gt hwidth)
    rw [Nat.pow_succ] at hn
    have hpos : 0 < width := by
      apply Nat.pos_of_ne_zero
      rintro rfl
      omega
    have hrest := ih (by omega) hpos
    rw [List.length_append, List.length_singleton]
    omega

theorem length_padded (hn : n < 10 ^ width) (hwidth : 0 < width) :
    (padded width n).length = width := by
  have hle := length_digits_le hn hwidth
  rw [padded, List.length_append, List.length_replicate]
  omega

theorem padded_ne_nil (width n : Nat) : padded width n ≠ [] :=
  List.append_ne_nil_of_right_ne_nil _ (digits_ne_nil n)

theorem isDigit_of_mem_padded {c : Char} (h : c ∈ padded width n) : isDigit c = true := by
  rw [padded, List.mem_append] at h
  obtain hzero | hdigit := h
  · rw [List.eq_of_mem_replicate hzero]
    decide
  · exact isDigit_of_mem_digits hdigit

theorem value_padded (width n : Nat) : value (padded width n) = n := by
  have hzeros : ∀ k s, value (List.replicate k '0' ++ s) = value s := by
    intro k s
    induction k with
    | zero => rfl
    | succ k ih => exact ih
  rw [padded, hzeros, value_digits]

end PlayerHub.Decimal
