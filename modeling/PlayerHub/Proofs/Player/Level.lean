import PlayerHub.Invite.Reward
import PlayerHub.Proofs.Text.DigitOrder

namespace PlayerHub.Progress

open Decimal (digits)

/-- The name of a numbered level. -/
def levelName (n : Nat) : String := String.ofList ('L' :: digits n)

theorem levelName_lt_iff (n m : Nat) : levelName n < levelName m ↔ digits n < digits m := by
  rw [String.lt_iff, levelName, levelName, String.toList_ofList, String.toList_ofList,
    List.cons_lt_cons_iff]
  simp

/-- The names of two levels are in the order of play exactly if the earlier level is not past the
one whose number the later one begins with, in as many digits. -/
theorem levelName_lt_iff_of_lt {n m : Nat} (h : n < m) :
    levelName n < levelName m ↔ n ≤ m / 10 ^ ((digits m).length - (digits n).length) := by
  rw [levelName_lt_iff, Decimal.digits_lt_iff_of_lt h]

theorem levelName_rewardLevel : levelName 1001 = Invites.rewardLevel := by
  decide +kernel

/-- Whether the name of a level is not behind that of level 1001, by its number: level 1001 itself,
the levels whose digits 1001 begins with, and those whose numbers begin with 1000. -/
def IsBeforeReward (m : Nat) : Prop :=
  m ∈ [0, 1, 10, 100, 1001] ∨ ∃ j, 1000 * 10 ^ j ≤ m ∧ m < 1001 * 10 ^ j

/-- Among the numbers with `i + 4` digits, it is those below `1001 * 10 ^ i`. -/
theorem begins_iff_lt {m i : Nat} (hlow : 10 ^ (i + 3) ≤ m) (hhigh : m < 10 ^ (i + 4)) :
    (∃ j, 1000 * 10 ^ j ≤ m ∧ m < 1001 * 10 ^ j) ↔ m < 1001 * 10 ^ i := by
  constructor
  · rintro ⟨j, hj, hj'⟩
    have hlength := Decimal.length_digits_eq hlow hhigh
    have hlength' : (digits m).length = j + 3 + 1 := by
      apply Decimal.length_digits_eq
      · rw [Nat.pow_add]
        omega
      · rw [Nat.add_assoc, Nat.pow_add]
        omega
    obtain rfl : j = i := by omega
    exact hj'
  · intro hlt
    rw [Nat.pow_add] at hlow
    exact ⟨i, by omega, hlt⟩

/-- The numbers with fewer digits begin with no four digits at all. -/
theorem not_begins_of_lt {m : Nat} (h : m < 1000) :
    ¬ ∃ j, 1000 * 10 ^ j ≤ m ∧ m < 1001 * 10 ^ j := by
  rintro ⟨j, hj, -⟩
  have hpos : 0 < 10 ^ j := Nat.pow_pos (by decide)
  omega

/-- Whether a numbered level has left the reward level behind is not a matter of its number alone: a
longer number may sort before a shorter one. -/
theorem hasPassed_levelName_iff (m : Nat) :
    (⟨levelName m⟩ : Progress).hasPassed Invites.rewardLevel = true ↔ ¬ IsBeforeReward m := by
  have hfour : (digits 1001).length = 4 := Decimal.length_digits_eq (by decide) (by decide)
  rw [hasPassed, decide_eq_true_eq, ← levelName_rewardLevel, levelName_lt_iff,
    Decimal.digits_lt_iff, hfour, IsBeforeReward]
  simp only [List.mem_cons, List.not_mem_nil, or_false]
  obtain rfl | hpos := Nat.eq_zero_or_pos m
  · simp
  obtain ⟨k, hk, hlow, hhigh⟩ := Decimal.exists_length_digits_eq hpos.ne'
  rw [hk]
  match k with
  | 0 | 1 | 2 =>
    have hnone := @not_begins_of_lt m (by omega)
    omega
  | i + 3 =>
    have hscale : 0 < 10 ^ i := Nat.pow_pos (by decide)
    rw [begins_iff_lt hlow hhigh]
    rw [Nat.pow_add] at hlow
    rw [Nat.add_assoc, Nat.pow_add] at hhigh ⊢
    obtain rfl | hi := Nat.eq_zero_or_pos i
    · omega
    · have hten : 10 ≤ 10 ^ i := Nat.le_self_pow hi.ne' 10
      omega

end PlayerHub.Progress
