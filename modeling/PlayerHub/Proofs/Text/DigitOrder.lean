import Mathlib.Data.List.Induction
import Mathlib.Tactic.Ring
import PlayerHub.Proofs.Text.Decimal

namespace PlayerHub.Decimal

theorem value_cons (c : Char) (s : List Char) :
    value (c :: s) = digitValue c * 10 ^ s.length + value s := by
  induction s using List.reverseRecOn with
  | nil => simp [value]
  | append_singleton s d ih =>
    rw [← List.cons_append, value_append_singleton, value_append_singleton, ih,
      List.length_append, List.length_singleton, Nat.pow_succ]
    ring

theorem digitValue_lt_ten {c : Char} (hc : isDigit c = true) : digitValue c < 10 := by
  have hrange := toNat_of_isDigit hc
  rw [digitValue]
  omega

theorem lt_iff_digitValue_lt {c d : Char} (hc : isDigit c = true) (hd : isDigit d = true) :
    c < d ↔ digitValue c < digitValue d := by
  have hc' := toNat_of_isDigit hc
  have hd' := toNat_of_isDigit hd
  have hlt : c < d ↔ c.toNat < d.toNat := Iff.rfl
  rw [hlt, digitValue, digitValue]
  omega

theorem digitValue_inj {c d : Char} (hc : isDigit c = true) (hd : isDigit d = true) :
    digitValue c = digitValue d ↔ c = d := by
  have hc' := toNat_of_isDigit hc
  have hd' := toNat_of_isDigit hd
  rw [← Char.toNat_inj, digitValue, digitValue]
  omega

theorem value_lt_pow_length {s : List Char} (hs : ∀ c ∈ s, isDigit c = true) :
    value s < 10 ^ s.length := by
  induction s with
  | nil => exact Nat.one_pos
  | cons c s ih =>
    obtain ⟨hc, hs⟩ := List.forall_mem_cons.1 hs
    have hrest := ih hs
    have hdigit := digitValue_lt_ten hc
    calc value (c :: s) = digitValue c * 10 ^ s.length + value s := value_cons c s
      _ < (digitValue c + 1) * 10 ^ s.length := by rw [Nat.succ_mul]; omega
      _ ≤ 10 * 10 ^ s.length := Nat.mul_le_mul_right _ hdigit
      _ = 10 ^ (c :: s).length := by rw [List.length_cons, Nat.pow_succ, Nat.mul_comm]

/-- The first digit decides. -/
private theorem fraction_lt_of_lead_lt {a b x y p q : Nat} (hlead : a < b) (hx : x < p)
    (hq : 0 < q) : (a * p + x) * (q * 10) < (b * q + y) * (p * 10) := by
  have hscale : 0 < q * 10 := Nat.mul_pos hq (by decide)
  calc (a * p + x) * (q * 10) < (a * p + p) * (q * 10) :=
        Nat.mul_lt_mul_of_pos_right (Nat.add_lt_add_left hx _) hscale
    _ = (a + 1) * q * (p * 10) := by ring
    _ ≤ (b * q + y) * (p * 10) :=
        Nat.mul_le_mul_right _ (Nat.le_add_right_of_le (Nat.mul_le_mul_right q hlead))

/-- Numerals compare as decimal fractions. -/
theorem lt_iff {s t : List Char} (hs : ∀ c ∈ s, isDigit c = true)
    (ht : ∀ c ∈ t, isDigit c = true) :
    s < t ↔ value s * 10 ^ t.length < value t * 10 ^ s.length ∨
      (value s * 10 ^ t.length = value t * 10 ^ s.length ∧ s.length < t.length) := by
  induction s generalizing t with
  | nil =>
    cases t with
    | nil => simp
    | cons d t =>
      have hlt : [] < d :: t := List.nil_lt_cons d t
      simp only [hlt, value, List.foldl_nil, List.length_nil, List.length_cons, true_iff]
      omega
  | cons c s ih =>
    cases t with
    | nil => simp [value]
    | cons d t =>
      obtain ⟨hc, hs⟩ := List.forall_mem_cons.1 hs
      obtain ⟨hd, ht⟩ := List.forall_mem_cons.1 ht
      have hrest := ih hs ht
      have hs' := value_lt_pow_length hs
      have ht' := value_lt_pow_length ht
      rw [List.cons_lt_cons_iff, lt_iff_digitValue_lt hc hd, ← digitValue_inj hc hd, hrest,
        value_cons, value_cons, List.length_cons, List.length_cons, Nat.pow_succ, Nat.pow_succ]
      generalize digitValue c = a, digitValue d = b, value s = x, value t = y at *
      generalize hp : 10 ^ s.length = p, hq : 10 ^ t.length = q at *
      obtain hlead | rfl | hlead := Nat.lt_trichotomy a b
      · have hfraction := @fraction_lt_of_lead_lt a b x y p q hlead hs' (by omega)
        simp [hlead, hfraction]
      · have hleft : (a * p + x) * (q * 10) = 10 * (a * p * q) + 10 * (x * q) := by ring
        have hright : (a * q + y) * (p * 10) = 10 * (a * p * q) + 10 * (y * p) := by ring
        rw [hleft, hright]
        omega
      · have hfraction := @fraction_lt_of_lead_lt b a y x q p hlead ht' (by omega)
        omega

variable {n m k : Nat}

theorem lt_pow_length_digits (n : Nat) : n < 10 ^ (digits n).length := by
  have hlt := value_lt_pow_length fun _ => isDigit_of_mem_digits (n := n)
  rwa [value_digits] at hlt

theorem length_digits_eq (hlow : 10 ^ k ≤ n) (hhigh : n < 10 ^ (k + 1)) :
    (digits n).length = k + 1 := by
  apply Nat.le_antisymm (length_digits_le hhigh k.succ_pos)
  exact (Nat.pow_lt_pow_iff_right (by decide)).1 (hlow.trans_lt (lt_pow_length_digits n))

theorem exists_length_digits_eq (hn : n ≠ 0) :
    ∃ k, (digits n).length = k + 1 ∧ 10 ^ k ≤ n ∧ n < 10 ^ (k + 1) := by
  obtain ⟨k, hk⟩ := Nat.exists_eq_succ_of_ne_zero (mt List.length_eq_zero_iff.1 (digits_ne_nil n))
  have hhigh := lt_pow_length_digits n
  rw [hk] at hhigh
  refine ⟨k, hk, Nat.le_of_not_lt fun hlow => ?_, hhigh⟩
  cases k with
  | zero => omega
  | succ k =>
    have hshort := length_digits_le hlow k.succ_pos
    omega

theorem digits_lt_iff (n m : Nat) :
    digits n < digits m ↔ n * 10 ^ (digits m).length < m * 10 ^ (digits n).length ∨
      (n * 10 ^ (digits m).length = m * 10 ^ (digits n).length ∧
        (digits n).length < (digits m).length) := by
  have hlt := lt_iff (fun _ => isDigit_of_mem_digits (n := n))
    (fun _ => isDigit_of_mem_digits (n := m))
  rwa [value_digits, value_digits] at hlt

/-- The numerals of two numbers are in the order of the numbers exactly if the smaller number is not
above the one that the greater number begins with, in as many digits. -/
theorem digits_lt_iff_of_lt (h : n < m) :
    digits n < digits m ↔ n ≤ m / 10 ^ ((digits m).length - (digits n).length) := by
  have hpos : 0 < (digits m).length := List.length_pos_iff.2 (digits_ne_nil m)
  obtain ⟨d, hd⟩ :=
    Nat.exists_eq_add_of_le (length_digits_le (h.trans (lt_pow_length_digits m)) hpos)
  have hscale : 0 < 10 ^ (digits n).length := Nat.pow_pos (by decide)
  have hscaled : n * 10 ^ (digits m).length = n * 10 ^ d * 10 ^ (digits n).length := by
    rw [hd, Nat.pow_add]
    ring
  rw [digits_lt_iff, hscaled, Nat.mul_lt_mul_right hscale, Nat.mul_left_inj hscale.ne', hd,
    Nat.add_sub_cancel_left, Nat.le_div_iff_mul_le (Nat.pow_pos (by decide))]
  cases d with
  | zero => omega
  | succ d => omega

end PlayerHub.Decimal
