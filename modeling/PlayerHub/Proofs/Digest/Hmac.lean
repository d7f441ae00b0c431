import Mathlib.Data.List.DropRight
import PlayerHub.Digest.Hmac

namespace PlayerHub

namespace Sha256

/-- Whether two different messages have the same digest. -/
def Collide (a b : List UInt8) : Prop := a ≠ b ∧ digest a = digest b

theorem length_digest (message : List UInt8) : (digest message).length = 32 := rfl

end Sha256

namespace Hmac

variable {a b : List UInt8} {message : List UInt8}

/-- What counts of a key. -/
def significant (key : List UInt8) : List UInt8 :=
  (if key.length ≤ 64 then key else Sha256.digest key).rdropWhile (· == 0)

/-- The message of the last of the two digests that make a keyed digest. -/
def outer (key message : List UInt8) : List UInt8 :=
  (blockKey key).map (· ^^^ 0x5c) ++ Sha256.digest ((blockKey key).map (· ^^^ 0x36) ++ message)

theorem mac_eq_digest_outer (key message : List UInt8) :
    mac key message = Sha256.digest (outer key message) := rfl

theorem length_blockKey (key : List UInt8) : (blockKey key).length = 64 := by
  have hlength : (if key.length ≤ 64 then key else Sha256.digest key).length ≤ 64 := by
    split
    · assumption
    · rw [Sha256.length_digest]
      omega
  rw [blockKey, List.length_append, List.length_replicate]
  omega

theorem rdropWhile_append_replicate (s : List UInt8) (n : Nat) :
    (s ++ List.replicate n 0).rdropWhile (· == 0) = s.rdropWhile (· == 0) := by
  induction n with
  | zero => rw [List.replicate_zero, List.append_nil]
  | succ n ih =>
    rw [List.replicate_succ', ← List.append_assoc, List.rdropWhile_concat_pos _ _ _ rfl, ih]

theorem rdropWhile_blockKey (key : List UInt8) :
    (blockKey key).rdropWhile (· == 0) = significant key :=
  rdropWhile_append_replicate _ _

/-- A list is what is left of it without the zeros at its end, and zeros up to its length. -/
theorem eq_append_replicate (s : List UInt8) :
    s = s.rdropWhile (· == 0) ++
      List.replicate (s.length - (s.rdropWhile (· == 0)).length) 0 := by
  have hsplit : s.rdropWhile (· == 0) ++ s.rtakeWhile (· == 0) = s :=
    List.rdropWhile_append_rtakeWhile
  have hzeros : s.rtakeWhile (· == 0) =
      List.replicate (s.rtakeWhile (· == 0)).length 0 := by
    apply List.eq_replicate_of_mem
    intro x hx
    exact beq_iff_eq.1 (List.mem_rtakeWhile_imp (p := (· == 0)) hx)
  have hlength : s.length - (s.rdropWhile (· == 0)).length = (s.rtakeWhile (· == 0)).length := by
    have h := congrArg List.length hsplit
    rw [List.length_append] at h
    omega
  rw [hlength, ← hzeros, hsplit]

/-- Two keys fill the same block exactly if they agree in what counts. -/
theorem blockKey_eq_iff : blockKey a = blockKey b ↔ significant a = significant b := by
  constructor
  · intro h
    rw [← rdropWhile_blockKey, h, rdropWhile_blockKey]
  · intro h
    rw [eq_append_replicate (blockKey a), eq_append_replicate (blockKey b), length_blockKey,
      length_blockKey, rdropWhile_blockKey, rdropWhile_blockKey, h]

theorem outer_eq_iff : outer a message = outer b message ↔ significant a = significant b := by
  rw [← blockKey_eq_iff]
  constructor
  · intro h
    have hlength : ((blockKey a).map (· ^^^ 0x5c)).length =
        ((blockKey b).map (· ^^^ 0x5c)).length := by
      rw [List.length_map, List.length_map, length_blockKey, length_blockKey]
    have hxor : Function.Injective fun x : UInt8 => x ^^^ 0x5c := fun x y hxy =>
      (UInt8.xor_left_inj 0x5c).1 hxy
    exact List.map_injective_iff.2 hxor (List.append_inj_left h hlength)
  · intro h
    rw [outer, outer, h]

/-- Two keys give a message the same keyed digest exactly if they agree in what counts, or the last
digests under them are of two messages that collide. -/
theorem mac_eq_iff : mac a message = mac b message ↔
    significant a = significant b ∨ Sha256.Collide (outer a message) (outer b message) := by
  rw [mac_eq_digest_outer, mac_eq_digest_outer, Sha256.Collide, ne_eq, outer_eq_iff]
  constructor
  · intro h
    by_cases hkeys : significant a = significant b
    · exact .inl hkeys
    · exact .inr ⟨hkeys, h⟩
  · rintro (hkeys | ⟨-, h⟩)
    · rw [outer_eq_iff.2 hkeys]
    · exact h

end Hmac

end PlayerHub
