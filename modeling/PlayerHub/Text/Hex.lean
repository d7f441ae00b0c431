namespace PlayerHub.Hex

/-- The last digit of a number. -/
def ofNat (n : Nat) : Fin 16 := Fin.ofNat 16 n

/-- The lower-case character of a digit. -/
def lower (d : Fin 16) : Char :=
  if d.val < 10 then Char.ofNat (48 + d.val) else Char.ofNat (87 + d.val)

/-- The upper-case character of a digit. -/
def upper (d : Fin 16) : Char :=
  if d.val < 10 then Char.ofNat (48 + d.val) else Char.ofNat (55 + d.val)

/-- The digit that a character stands for, in either case. -/
def digit? (c : Char) : Option (Fin 16) :=
  if '0' ≤ c ∧ c ≤ '9' then some (ofNat (c.toNat - 48))
  else if 'a' ≤ c ∧ c ≤ 'f' then some (ofNat (c.toNat - 87))
  else if 'A' ≤ c ∧ c ≤ 'F' then some (ofNat (c.toNat - 55))
  else none

@[simp] theorem digit?_lower (d : Fin 16) : digit? (lower d) = some d := by
  revert d; decide

@[simp] theorem digit?_upper (d : Fin 16) : digit? (upper d) = some d := by
  revert d; decide

/-- The number that four digits write. -/
def quad (a b c d : Fin 16) : Nat :=
  ((a.val * 16 + b.val) * 16 + c.val) * 16 + d.val

/-- The two upper-case digits of a byte. -/
def ofByte (b : UInt8) : List Char :=
  [upper (ofNat (b.toNat / 16)), upper (ofNat b.toNat)]

/-- The byte that two digits write. -/
def byte (a b : Fin 16) : UInt8 :=
  UInt8.ofNat (a.val * 16 + b.val)

/-- The bytes that digits write, two digits a byte. -/
def bytes? : List Char → Option (List UInt8)
  | [] => some []
  | [_] => none
  | a :: b :: s => do return byte (← digit? a) (← digit? b) :: (← bytes? s)

end PlayerHub.Hex
