namespace PlayerHub.Binary64

/-- The number of 53 significant bits that is nearest to a natural number; of two, the even one. -/
def nearest (n : Nat) : Nat :=
  let unit := Nat.pow 2 (n.log2 - 52)
  let q := n / unit
  let r := n % unit
  if 2 * r < unit ∨ (2 * r = unit ∧ q % 2 = 0) then q * unit else (q + 1) * unit

/-- Half a unit beyond the largest number, which is all 53 bits. What reaches it is too large. -/
def bound : Nat := (Nat.pow 2 54 - 1) * Nat.pow 2 970

/-- Whether `n` times ten to the given power is too large. Powers beyond 308 are too large for any
significand but zero, and negative ones for none. -/
def overflows (n : Nat) (power : Int) : Bool :=
  if power < 0 then false
  else if 308 < power then n != 0
  else bound ≤ nearest n * nearest (Nat.pow 10 power.toNat)

end PlayerHub.Binary64
