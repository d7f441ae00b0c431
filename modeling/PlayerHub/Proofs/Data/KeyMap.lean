import Mathlib.Data.Set.Card
import PlayerHub.Data.KeyMap

namespace PlayerHub.KeyMap

variable {κ ν : Type}

theorem eq_empty_of_isEmpty {m : KeyMap κ ν} (h : m.isEmpty = true) : m = ∅ := by
  obtain ⟨entries, hnodup⟩ := m
  have hnil : entries = [] := List.isEmpty_iff.1 h
  subst hnil
  rfl

variable [DecidableEq κ] {m : KeyMap κ ν}

theorem isEmpty_eq_false_iff : m.isEmpty = false ↔ ∃ k v, m.get? k = some v := by
  simp only [isEmpty, List.isEmpty_eq_false_iff_exists_mem, Prod.exists, get?_eq_some_iff]

theorem contains_eq_true_iff {k : κ} : m.contains k = true ↔ ∃ v, m.get? k = some v :=
  Option.isSome_iff_exists

theorem encard_keys (m : KeyMap κ ν) : {k | m.contains k = true}.encard = m.size := by
  have hkeys : {k | m.contains k = true} = ((m.entries.map (·.1)).toFinset : Set κ) := by
    ext k
    simp [contains_eq_true_iff, get?_eq_some_iff]
  rw [hkeys, Set.encard_coe_eq_coe_finsetCard, List.toFinset_card_of_nodup m.nodup,
    List.length_map, size]

theorem size_le_one (heq : ∀ k k', m.contains k = true → m.contains k' = true → k = k') :
    m.size ≤ 1 := by
  have hle : {k | m.contains k = true}.encard ≤ 1 := Set.encard_le_one_iff.2 heq
  rw [encard_keys] at hle
  exact Nat.cast_le_one.1 hle

end PlayerHub.KeyMap
