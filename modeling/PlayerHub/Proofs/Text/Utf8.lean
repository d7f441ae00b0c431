import PlayerHub.Text.Utf8

namespace PlayerHub.Utf8

private theorem toNat_ofNat {n : Nat} (h : n < 256) : (UInt8.ofNat n).toNat = n := by
  rw [UInt8.toNat_ofNat']
  exact Nat.mod_eq_of_lt h

private theorem follow_tail (count bits low : Nat) (s : List UInt8) (h : low < 64) {lo hi : Nat}
    (hlo : lo ≤ 0x80 + low) (hhi : 0x80 + low ≤ hi) :
    follow (count + 1) bits lo hi (UInt8.ofNat (0x80 + low) :: s) =
      follow count (bits * 64 + low) 0x80 0xBF s := by
  have hbyte : (UInt8.ofNat (0x80 + low)).toNat = 0x80 + low := toNat_ofNat (by omega)
  have hwithin : within lo hi (UInt8.ofNat (0x80 + low)) = true := by
    simp only [within, hbyte, hlo, hhi, decide_true, Bool.and_self]
  rw [follow, if_pos hwithin, hbyte, Nat.add_sub_cancel_left]

private theorem scalars_lead {b : UInt8} {count bits lo hi : Nat} (s : List UInt8)
    (hb : 0x80 ≤ b.toNat) (h : lead? b = some (count, bits, lo, hi)) :
    scalars (b :: s) = (follow count bits lo hi s).1 :: scalars (follow count bits lo hi s).2 := by
  rw [scalars, if_neg (by omega), h]

/-- A character is read back from its bytes, and what follows them is left as it is. -/
theorem scalars_encodeNat_append (c : Char) (s : List UInt8) :
    scalars (encodeNat c.toNat ++ s) = some c :: scalars s := by
  have hvalid : c.toNat < 0xD800 ∨ 0xDFFF < c.toNat ∧ c.toNat < 0x110000 := c.valid
  have hofNat : Char.ofNat c.toNat = c := Char.ofNat_toNat c
  generalize c.toNat = n at hvalid hofNat
  unfold encodeNat
  split
  · have hbyte : (UInt8.ofNat n).toNat = n := toNat_ofNat (by omega)
    rw [List.singleton_append, scalars, if_pos (by omega), hbyte, hofNat]
  split
  · have hbyte : (UInt8.ofNat (0xC0 + n / 64)).toNat = 0xC0 + n / 64 := toNat_ofNat (by omega)
    have hlead : lead? (UInt8.ofNat (0xC0 + n / 64)) = some (1, n / 64, 0x80, 0xBF) := by
      rw [lead?, hbyte, if_pos (by omega), Nat.add_sub_cancel_left]
    rw [List.cons_append, List.singleton_append, scalars_lead _ (by omega) hlead,
      follow_tail 0 _ _ _ (by omega) (by omega) (by omega), follow]
    have hn : n / 64 * 64 + n % 64 = n := by omega
    rw [hn, hofNat]
  split
  · have hbyte : (UInt8.ofNat (0xE0 + n / 4096)).toNat = 0xE0 + n / 4096 := toNat_ofNat (by omega)
    have hn : (n / 4096 * 64 + n / 64 % 64) * 64 + n % 64 = n := by omega
    -- The first byte decides which second bytes may follow it.
    obtain ⟨lo, hi, hlead, hlo, hhi⟩ : ∃ lo hi,
        lead? (UInt8.ofNat (0xE0 + n / 4096)) = some (2, n / 4096, lo, hi) ∧
          lo ≤ 0x80 + n / 64 % 64 ∧ 0x80 + n / 64 % 64 ≤ hi := by
      rw [lead?, hbyte]
      rw [if_neg (by omega)]
      by_cases hzero : n / 4096 = 0
      · exact ⟨0xA0, 0xBF, by rw [if_pos (by omega), hzero], by omega, by omega⟩
      rw [if_neg (by omega)]
      by_cases hsurrogate : n / 4096 = 0xD
      · exact ⟨0x80, 0x9F, by rw [if_pos (by omega), hsurrogate], by omega, by omega⟩
      rw [if_neg (by omega)]
      exact ⟨0x80, 0xBF, by rw [if_pos (by omega), Nat.add_sub_cancel_left], by omega, by omega⟩
    rw [List.cons_append, List.cons_append, List.singleton_append,
      scalars_lead _ (by omega) hlead, follow_tail 1 _ _ _ (by omega) hlo hhi,
      follow_tail 0 _ _ _ (by omega) (by omega) (by omega), follow, hn, hofNat]
  · have hbyte : (UInt8.ofNat (0xF0 + n / 262144)).toNat = 0xF0 + n / 262144 :=
      toNat_ofNat (by omega)
    have hn : ((n / 262144 * 64 + n / 4096 % 64) * 64 + n / 64 % 64) * 64 + n % 64 = n := by omega
    obtain ⟨lo, hi, hlead, hlo, hhi⟩ : ∃ lo hi,
        lead? (UInt8.ofNat (0xF0 + n / 262144)) = some (3, n / 262144, lo, hi) ∧
          lo ≤ 0x80 + n / 4096 % 64 ∧ 0x80 + n / 4096 % 64 ≤ hi := by
      rw [lead?, hbyte]
      rw [if_neg (by omega), if_neg (by omega), if_neg (by omega), if_neg (by omega)]
      by_cases hzero : n / 262144 = 0
      · exact ⟨0x90, 0xBF, by rw [if_pos (by omega), hzero], by omega, by omega⟩
      rw [if_neg (by omega)]
      by_cases hlast : n / 262144 = 4
      · exact ⟨0x80, 0x8F, by rw [if_neg (by omega), if_pos (by omega), hlast], by omega, by omega⟩
      · exact ⟨0x80, 0xBF, by rw [if_pos (by omega), Nat.add_sub_cancel_left], by omega, by omega⟩
    rw [List.cons_append, List.cons_append, List.cons_append, List.singleton_append,
      scalars_lead _ (by omega) hlead, follow_tail 2 _ _ _ (by omega) hlo hhi,
      follow_tail 1 _ _ _ (by omega) (by omega) (by omega),
      follow_tail 0 _ _ _ (by omega) (by omega) (by omega), follow, hn, hofNat]

theorem scalars_encode (cs : List Char) : scalars (encode cs) = cs.map some := by
  induction cs with
  | nil => rw [encode, List.flatMap_nil, scalars, List.map_nil]
  | cons c cs ih =>
    rw [encode, List.flatMap_cons, scalars_encodeNat_append, List.map_cons]
    exact congrArg (some c :: ·) ih

theorem decodeLossy_encode (cs : List Char) : decodeLossy (encode cs) = cs := by
  rw [decodeLossy, scalars_encode, List.map_map]
  exact List.map_id cs

end PlayerHub.Utf8
