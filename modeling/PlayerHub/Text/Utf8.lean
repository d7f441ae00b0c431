namespace PlayerHub.Utf8

/-- The bytes of a character with the number `n`. -/
def encodeNat (n : Nat) : List UInt8 :=
  if n < 0x80 then [UInt8.ofNat n]
  else if n < 0x800 then [UInt8.ofNat (0xC0 + n / 64), UInt8.ofNat (0x80 + n % 64)]
  else if n < 0x10000 then
    [UInt8.ofNat (0xE0 + n / 4096), UInt8.ofNat (0x80 + n / 64 % 64), UInt8.ofNat (0x80 + n % 64)]
  else
    [UInt8.ofNat (0xF0 + n / 262144), UInt8.ofNat (0x80 + n / 4096 % 64),
      UInt8.ofNat (0x80 + n / 64 % 64), UInt8.ofNat (0x80 + n % 64)]

/-- The UTF-8 form of a text. -/
def encode (s : List Char) : List UInt8 := s.flatMap fun c => encodeNat c.toNat

/-- The UTF-8 form of a string. -/
def ofString (s : String) : List UInt8 := encode s.toList

/-- Whether a byte lies in a range, bounds included. -/
def within (lo hi : Nat) (b : UInt8) : Bool := lo ≤ b.toNat && b.toNat ≤ hi

/-- What a first byte announces: the number of bytes that follow it, the bits it gives, and the
range of the next byte, which shuts out overlong forms, surrogates and numbers above 0x10FFFF. -/
def lead? (b : UInt8) : Option (Nat × Nat × Nat × Nat) :=
  let n := b.toNat
  if 0xC2 ≤ n ∧ n ≤ 0xDF then some (1, n - 0xC0, 0x80, 0xBF)
  else if n = 0xE0 then some (2, 0, 0xA0, 0xBF)
  else if n = 0xED then some (2, 0xD, 0x80, 0x9F)
  else if 0xE1 ≤ n ∧ n ≤ 0xEF then some (2, n - 0xE0, 0x80, 0xBF)
  else if n = 0xF0 then some (3, 0, 0x90, 0xBF)
  else if 0xF1 ≤ n ∧ n ≤ 0xF3 then some (3, n - 0xF0, 0x80, 0xBF)
  else if n = 0xF4 then some (3, 4, 0x80, 0x8F)
  else none

/-- Reads the `count` bytes that should continue a character, the first of them between `lo` and
`hi`. The character is `none` if a byte does not fit, and that byte stays unread. -/
def follow (count bits lo hi : Nat) (s : List UInt8) : Option Char × List UInt8 :=
  match count, s with
  | 0, s => (some (Char.ofNat bits), s)
  | _ + 1, [] => (none, [])
  | count + 1, b :: s =>
    if within lo hi b then follow count (bits * 64 + (b.toNat - 0x80)) 0x80 0xBF s
    else (none, b :: s)

theorem length_follow_le (count bits lo hi : Nat) (s : List UInt8) :
    (follow count bits lo hi s).2.length ≤ s.length := by
  fun_induction follow count bits lo hi s with
  | case1 => exact Nat.le_refl _
  | case2 => exact Nat.le_refl _
  | case3 _ _ _ _ _ _ _ ih => exact Nat.le_succ_of_le ih
  | case4 => exact Nat.le_refl _

/-- The characters of a byte sequence, with `none` for each part that is not UTF-8: a maximal run of
bytes that begins a character and does not complete it, or a byte that begins none. -/
def scalars (s : List UInt8) : List (Option Char) :=
  match s with
  | [] => []
  | b :: s =>
    if b.toNat < 0x80 then some (Char.ofNat b.toNat) :: scalars s
    else
      match lead? b with
      | none => none :: scalars s
      | some (count, bits, lo, hi) =>
        (follow count bits lo hi s).1 :: scalars (follow count bits lo hi s).2
termination_by s.length
decreasing_by
  · exact Nat.lt_succ_self _
  · exact Nat.lt_succ_self _
  · exact Nat.lt_succ_of_le (length_follow_le _ _ _ _ _)

/-- The text of a byte sequence that is UTF-8 throughout. -/
def decode? (s : List UInt8) : Option (List Char) := (scalars s).mapM id

/-- The text of a byte sequence, with U+FFFD for each part that is not UTF-8. -/
def decodeLossy (s : List UInt8) : List Char :=
  (scalars s).map fun c => c.getD '\uFFFD'

end PlayerHub.Utf8
