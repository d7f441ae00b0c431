import PlayerHub.Text.Base64Url

namespace PlayerHub.Base64Url

theorem digit?_digit {n : Nat} (h : n < 64) : digit? (digit n) = some n := by
  have hall : ∀ n : Fin 64, digit? (digit n) = some n.val := by decide
  exact hall ⟨n, h⟩

theorem digit_ne_dot {n : Nat} (h : n < 64) : digit n ≠ '.' := by
  have hall : ∀ n : Fin 64, digit n ≠ '.' := by decide
  exact hall ⟨n, h⟩

private theorem ofNat_eq {a : UInt8} {n : Nat} (h : n = a.toNat) : UInt8.ofNat n = a := by
  subst h
  exact UInt8.ofNat_toNat

/-- Every byte sequence is read back from its base64url text. -/
theorem decode?_encode (s : List UInt8) : decode? (encode s) = some s := by
  fun_induction encode s with
  | case1 => rfl
  | case2 a =>
    have ha := a.toNat_lt
    rw [decode?, digit?_digit (by omega), digit?_digit (by omega)]
    have hbits : a.toNat % 4 * 16 % 16 = 0 := by omega
    have hbyte : UInt8.ofNat (a.toNat / 4 * 4 + a.toNat % 4 * 16 / 16) = a := ofNat_eq (by omega)
    simp only [Option.bind_eq_bind, Option.bind_some, hbits, hbyte, if_true]
  | case3 a b =>
    have ha := a.toNat_lt
    have hb := b.toNat_lt
    rw [decode?, digit?_digit (by omega), digit?_digit (by omega), digit?_digit (by omega)]
    have hbits : b.toNat % 16 * 4 % 4 = 0 := by omega
    have hfirst : UInt8.ofNat (a.toNat / 4 * 4 + (a.toNat % 4 * 16 + b.toNat / 16) / 16) = a :=
      ofNat_eq (by omega)
    have hsecond : UInt8.ofNat
        ((a.toNat % 4 * 16 + b.toNat / 16) % 16 * 16 + b.toNat % 16 * 4 / 4) = b :=
      ofNat_eq (by omega)
    simp only [Option.bind_eq_bind, Option.bind_some, hbits, hfirst, hsecond, if_true]
  | case4 a b c s ih =>
    have ha := a.toNat_lt
    have hb := b.toNat_lt
    have hc := c.toNat_lt
    rw [decode?, digit?_digit (by omega), digit?_digit (by omega), digit?_digit (by omega),
      digit?_digit (by omega), ih]
    have hfirst : UInt8.ofNat (a.toNat / 4 * 4 + (a.toNat % 4 * 16 + b.toNat / 16) / 16) = a :=
      ofNat_eq (by omega)
    have hsecond : UInt8.ofNat ((a.toNat % 4 * 16 + b.toNat / 16) % 16 * 16 +
        (b.toNat % 16 * 4 + c.toNat / 64) / 4) = b := ofNat_eq (by omega)
    have hthird : UInt8.ofNat ((b.toNat % 16 * 4 + c.toNat / 64) % 4 * 64 + c.toNat % 64) = c :=
      ofNat_eq (by omega)
    simp only [Option.bind_eq_bind, Option.bind_some, hfirst, hsecond, hthird]

theorem dot_not_mem_encode (s : List UInt8) : '.' ∉ encode s := by
  fun_induction encode s with
  | case1 => exact List.not_mem_nil
  | case2 a =>
    have ha := a.toNat_lt
    simp only [List.mem_cons, List.not_mem_nil, or_false, not_or]
    exact ⟨(digit_ne_dot (by omega)).symm, (digit_ne_dot (by omega)).symm⟩
  | case3 a b =>
    have ha := a.toNat_lt
    have hb := b.toNat_lt
    simp only [List.mem_cons, List.not_mem_nil, or_false, not_or]
    exact ⟨(digit_ne_dot (by omega)).symm, (digit_ne_dot (by omega)).symm,
      (digit_ne_dot (by omega)).symm⟩
  | case4 a b c s ih =>
    have ha := a.toNat_lt
    have hb := b.toNat_lt
    have hc := c.toNat_lt
    simp only [List.mem_cons, not_or]
    exact ⟨(digit_ne_dot (by omega)).symm, (digit_ne_dot (by omega)).symm,
      (digit_ne_dot (by omega)).symm, (digit_ne_dot (by omega)).symm, ih⟩

end PlayerHub.Base64Url
