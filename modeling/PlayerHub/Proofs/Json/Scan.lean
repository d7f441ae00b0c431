import PlayerHub.Json.Printer
import PlayerHub.Json.Scanner
import PlayerHub.Proofs.Text.Decimal
import PlayerHub.Text.Blank

namespace PlayerHub.Json

private theorem scanString_letter {e c : Char} (he : e ≠ 'u') (h : escaped? e = some c)
    (s : List Symbol) :
    scanString (some '\\' :: some e :: s) =
      (scanString s).map fun (ps, r) => (.char c :: ps, r) := by
  rw [scanString]
  · rw [h]
    cases scanString s <;> rfl
  · intro _ _ _ _ _ _ hu
    exact he hu

private theorem scanString_unit {a b c d : Char} {n : Nat} (hn : n < 0xD800)
    (h : unit? (some a) (some b) (some c) (some d) = some n) (s : List Symbol) :
    scanString (some '\\' :: some 'u' :: some a :: some b :: some c :: some d :: s) =
      (scanString s).map fun (ps, r) => (.char (Char.ofNat n) :: ps, r) := by
  have hpiece : Piece.ofUnit n = .char (Char.ofNat n) := by rw [Piece.ofUnit, if_neg (by omega)]
  rw [scanString, h, ← hpiece]
  cases scanString s <;> rfl

private theorem scanString_plain {c : Char} (hquote : c ≠ '"') (hslash : c ≠ '\\')
    (hcontrol : ¬ c.toNat < 32) (s : List Symbol) :
    scanString (some c :: s) = (scanString s).map fun (ps, r) => (.char c :: ps, r) := by
  rw [scanString]
  · rw [if_neg (by simp only [hcontrol, hslash, or_self, not_false_eq_true])]
    cases scanString s <;> rfl
  · simpa only [Option.some.injEq] using hquote
  · simp only [hslash, false_imp_iff, implies_true]
  · simp only [hslash, false_imp_iff, implies_true]

private theorem unit?_control {n : Nat} (h : n < 32) :
    unit? (some '0') (some '0') (some (Hex.lower (Hex.ofNat (n / 16))))
      (some (Hex.lower (Hex.ofNat n))) = some n := by
  have hall : ∀ n : Fin 32, unit? (some '0') (some '0')
      (some (Hex.lower (Hex.ofNat (n.val / 16)))) (some (Hex.lower (Hex.ofNat n.val))) =
        some n.val := by decide
  exact hall ⟨n, h⟩

/-- A character is read back from its written form, whether that is an escape or not. -/
theorem scanString_escape_append (c : Char) (s : List Symbol) :
    scanString ((escape c).map some ++ s) =
      (scanString s).map fun (ps, r) => (.char c :: ps, r) := by
  unfold escape
  split
  · subst c; exact scanString_letter (by decide) rfl s
  split
  · subst c; exact scanString_letter (by decide) rfl s
  split
  · subst c; exact scanString_letter (by decide) rfl s
  split
  · subst c; exact scanString_letter (by decide) rfl s
  split
  · subst c; exact scanString_letter (by decide) rfl s
  split
  · subst c; exact scanString_letter (by decide) rfl s
  split
  · subst c; exact scanString_letter (by decide) rfl s
  split
  · rename_i hcontrol
    have h := scanString_unit (by omega) (unit?_control hcontrol) s
    rw [Char.ofNat_toNat] at h
    exact h
  · rename_i hquote hslash _ _ _ _ _ hcontrol
    exact scanString_plain hquote hslash hcontrol s

theorem scanString_flatMap_escape_append (cs : List Char) (s : List Symbol) :
    scanString ((cs.flatMap escape).map some ++ some '"' :: s) = some (cs.map .char, s) := by
  induction cs with
  | nil => rw [List.flatMap_nil, List.map_nil, List.nil_append, scanString, List.map_nil]
  | cons c cs ih =>
    rw [List.flatMap_cons, List.map_append, List.append_assoc, scanString_escape_append, ih]
    rfl

theorem joinPieces_map_char (cs : List Char) : joinPieces (cs.map .char) = .ok cs := by
  induction cs with
  | nil => rw [List.map_nil, joinPieces]
  | cons c cs ih =>
    rw [List.map_cons, joinPieces, ih]
    rfl

/-- A string is read back behind its opening quote. -/
theorem scanToken_quote_append (q : Quoted) (s : List Symbol) :
    scanToken '"' ((q.print.drop 1).map some ++ s) = some (.text q, s) := by
  cases q with
  | plain t =>
    have hscan := scanString_flatMap_escape_append t.toList s
    have hpieces : Quoted.ofPieces (t.toList.map .char) = .plain t := by
      rw [Quoted.ofPieces, joinPieces_map_char]
      simp only [String.ofList_toList]
    simp only [Quoted.print, List.drop_succ_cons, List.drop_zero, List.map_append, List.map_cons,
      List.map_nil, List.append_assoc, List.singleton_append, scanToken, hscan, Option.map_some,
      hpieces]
  | flawed flaw =>
    cases flaw <;> rfl

/-- No number goes on with these symbols. -/
def EndsNumber (s : List Symbol) : Prop :=
  ∀ c, s.head? = some (some c) → ¬ Decimal.isDigit c ∧ c ≠ '.' ∧ c ≠ 'e' ∧ c ≠ 'E'

theorem scanDigits_append {ds : List Char} (hds : ∀ c ∈ ds, Decimal.isDigit c = true)
    {s : List Symbol} (hs : ∀ c, s.head? = some (some c) → ¬ Decimal.isDigit c) :
    scanDigits (ds.map some ++ s) = (ds, s) := by
  induction ds with
  | nil =>
    rw [List.map_nil, List.nil_append]
    cases s with
    | nil => rw [scanDigits]
    | cons c s =>
      cases c with
      | none => rw [scanDigits]
      | some c => rw [scanDigits, if_neg (hs c rfl)]
  | cons d ds ih =>
    rw [List.map_cons, List.cons_append, scanDigits, if_pos (hds d List.mem_cons_self),
      ih fun c hc => hds c (List.mem_cons_of_mem d hc)]

theorem scanFraction_of_ne {s : List Symbol} (h : s.head? ≠ some (some '.')) :
    scanFraction s = some ([], s) := by
  unfold scanFraction
  split
  · exact absurd rfl h
  · rfl

theorem scanExponent_of_endsNumber {s : List Symbol} (h : EndsNumber s) :
    scanExponent s = some (false, [], s) := by
  unfold scanExponent
  split
  · rename_i e s
    obtain ⟨-, -, he, hE⟩ := h e rfl
    rw [if_neg (by simp only [he, hE, or_self, not_false_eq_true])]
  · rfl

/-- A plain integer is read back behind its sign. -/
theorem scanNumber_digits_append (negative : Bool) (n : Nat) {s : List Symbol}
    (h : EndsNumber s) :
    scanNumber negative ((Decimal.digits n).map some ++ s) =
      some (.ofNumeral negative (.ofNat n), s) := by
  have hdigits : scanDigits ((Decimal.digits n).map some ++ s) = (Decimal.digits n, s) :=
    scanDigits_append (fun _ => Decimal.isDigit_of_mem_digits) fun c hc => (h c hc).1
  have hfraction : scanFraction s = some ([], s) :=
    scanFraction_of_ne fun hs => (h '.' hs).2.1 rfl
  have hwhole : ¬ (Decimal.digits n = [] ∨
      (Decimal.digits n).head? = some '0' ∧ Decimal.digits n ≠ ['0']) := by
    rintro (hnil | ⟨hhead, hne⟩)
    · exact Decimal.digits_ne_nil n hnil
    · exact hne (Decimal.digits_of_head?_eq_zero hhead)
  simp only [scanNumber, hdigits, hwhole, if_false, hfraction, scanExponent_of_endsNumber h,
    Option.bind_eq_bind, Option.bind_some, Option.pure_def]
  rfl

theorem scanExponent_digits_append {n : Nat} {s : List Symbol} (h : EndsNumber s) :
    scanExponent (some 'e' :: ((Decimal.digits n).map some ++ s)) =
      some (false, Decimal.digits n, s) := by
  have hdigits : scanDigits ((Decimal.digits n).map some ++ s) = (Decimal.digits n, s) :=
    scanDigits_append (fun _ => Decimal.isDigit_of_mem_digits) fun c hc => (h c hc).1
  obtain ⟨d, ds, hds⟩ := List.exists_cons_of_ne_nil (Decimal.digits_ne_nil n)
  have hd : Decimal.isDigit d = true :=
    Decimal.isDigit_of_mem_digits (n := n) (by rw [hds]; exact List.mem_cons_self)
  rw [hds, List.map_cons, List.cons_append] at hdigits ⊢
  have hsign : scanSign (some d :: (ds.map some ++ s)) = (false, some d :: (ds.map some ++ s)) := by
    unfold scanSign
    split
    · rename_i heq
      cases heq
      exact absurd hd (by decide)
    · rename_i heq
      cases heq
      exact absurd hd (by decide)
    · rfl
  rw [scanExponent, if_pos (Or.inl rfl), hsign, scanSomeDigits, hdigits]
  rfl

/-- A number with an exponent is no plain integer, and its flaw is read back. -/
theorem scanNumber_exponent_append {n : Nat} {s : List Symbol} (h : EndsNumber s) :
    scanNumber false (some '1' :: some 'e' :: ((Decimal.digits n).map some ++ s)) =
      some (.other (Numeral.flaw? ⟨['1'], [], false, Decimal.digits n⟩), s) := by
  have hwhole : scanDigits (some '1' :: some 'e' :: ((Decimal.digits n).map some ++ s)) =
      (['1'], some 'e' :: ((Decimal.digits n).map some ++ s)) := rfl
  have hfraction : scanFraction (some 'e' :: ((Decimal.digits n).map some ++ s)) =
      some ([], some 'e' :: ((Decimal.digits n).map some ++ s)) :=
    scanFraction_of_ne (by simp only [List.head?_cons, ne_eq, Option.some.injEq, Char.reduceEq,
      not_false_eq_true])
  have hnumber : Number.ofNumeral false ⟨['1'], [], false, Decimal.digits n⟩ =
      .other (Numeral.flaw? ⟨['1'], [], false, Decimal.digits n⟩) := by
    rw [Number.ofNumeral, if_pos (Or.inr (Or.inl (Decimal.digits_ne_nil n)))]
  rw [← hnumber]
  simp only [scanNumber, hwhole, hfraction, scanExponent_digits_append h, List.cons_ne_nil,
    List.head?_cons, Option.some.injEq, Char.reduceEq, false_and, or_false, if_false,
    Option.bind_eq_bind, Option.bind_some, Option.pure_def]

theorem flaw?_one_exponent (n : Nat) :
    Numeral.flaw? ⟨['1'], [], false, Decimal.digits n⟩ =
      if Numeral.maxExponent < n / 10 then some .inside
      else if Binary64.overflows 1 n then some .atEnd
      else none := by
  have hscaled : Numeral.scaled ⟨['1'], [], false, Decimal.digits n⟩ = (1, 0) := rfl
  simp only [Numeral.flaw?, hscaled, Decimal.value_digits, Decimal.value_dropLast_digits,
    Nat.one_ne_zero, if_false, Bool.false_eq_true, Int.zero_add]

theorem isSpace_of_isDigit {c : Char} (h : Decimal.isDigit c = true) : isSpace c = false := by
  apply Bool.eq_false_iff.2
  intro hspace
  simp only [isSpace, Bool.or_eq_true, beq_iff_eq] at hspace
  rcases hspace with ((rfl | rfl) | rfl) | rfl <;> exact absurd h (by decide)

theorem scanToken_of_isDigit {c : Char} (h : Decimal.isDigit c = true) (s : List Symbol) :
    scanToken c s = (scanNumber false (some c :: s)).map fun (n, r) => (.number n, r) := by
  unfold scanToken
  split
  case h_12 => rfl
  all_goals exact absurd h (by decide)

private theorem scanToken_digits {n : Nat} {s : List Symbol} {t : Token}
    (h : (scanNumber false ((Decimal.digits n).map some ++ s)).map
      (fun (n, r) => (Token.number n, r)) = some (t, s)) :
    ∃ c cs, Decimal.digits n = c :: cs ∧ isSpace c = false ∧
      scanToken c (cs.map some ++ s) = some (t, s) := by
  obtain ⟨d, ds, hds⟩ := List.exists_cons_of_ne_nil (Decimal.digits_ne_nil n)
  have hd : Decimal.isDigit d = true :=
    Decimal.isDigit_of_mem_digits (n := n) (by rw [hds]; exact List.mem_cons_self)
  refine ⟨d, ds, hds, isSpace_of_isDigit hd, ?_⟩
  rw [hds, List.map_cons, List.cons_append] at h
  rw [scanToken_of_isDigit hd, h]

/-- Every number is read back, plain or not. -/
theorem scanToken_number (n : Number) {s : List Symbol} (h : EndsNumber s) :
    ∃ c cs, n.print = c :: cs ∧ isSpace c = false ∧
      scanToken c (cs.map some ++ s) = some (.number n, s) := by
  cases n with
  | int i =>
    by_cases hi : i < 0
    · have hnumber : Number.ofNumeral true (.ofNat i.natAbs) = .int i := by
        have hvalue : (Decimal.value (Numeral.ofNat i.natAbs).whole : Int) = -i := by
          rw [Numeral.ofNat, Decimal.value_digits]
          omega
        rw [Number.ofNumeral, if_neg (by rw [hvalue]; simp [Numeral.ofNat]; omega), hvalue]
        simp
      refine ⟨'-', Decimal.digits i.natAbs, ?_, rfl, ?_⟩
      · rw [Number.print, Decimal.signed, if_pos hi]
      · simp only [scanToken, scanNumber_digits_append true _ h, Option.map_some, hnumber]
    · have hnumber : Number.ofNumeral false (.ofNat i.natAbs) = .int i := by
        have hvalue : (Decimal.value (Numeral.ofNat i.natAbs).whole : Int) = i := by
          rw [Numeral.ofNat, Decimal.value_digits]
          omega
        rw [Number.ofNumeral, if_neg (by simp [Numeral.ofNat]), hvalue]
        simp
      rw [Number.print, Decimal.signed, if_neg hi]
      apply scanToken_digits
      rw [scanNumber_digits_append false _ h, hnumber]
      rfl
  | other flaw =>
    cases flaw with
    | none =>
      have hzero : Decimal.digits 0 = ['0'] := by rw [Decimal.digits, if_pos (by decide)]; rfl
      have hscan := scanNumber_digits_append true 0 h
      have hnumber : Number.ofNumeral true (.ofNat 0) = .other none := by
        rw [Numeral.ofNat, hzero]
        rfl
      rw [hzero, hnumber] at hscan
      refine ⟨'-', ['0'], rfl, rfl, ?_⟩
      simp only [scanToken, hscan, Option.map_some]
    | some flaw =>
      cases flaw with
      | atEnd =>
        have hflaw : Numeral.flaw? ⟨['1'], [], false, Decimal.digits 309⟩ = some .atEnd := by
          rw [flaw?_one_exponent]
          rfl
        have hscan := scanNumber_exponent_append (n := 309) h
        rw [hflaw] at hscan
        refine ⟨'1', _, rfl, rfl, ?_⟩
        rw [scanToken_of_isDigit (by decide), List.map_cons, List.cons_append, hscan]
        rfl
      | inside =>
        have hflaw : Numeral.flaw?
            ⟨['1'], [], false, Decimal.digits (10 * (Numeral.maxExponent + 1))⟩ =
              some .inside := by
          rw [flaw?_one_exponent, if_pos (by decide)]
        have hscan := scanNumber_exponent_append (n := 10 * (Numeral.maxExponent + 1)) h
        rw [hflaw] at hscan
        refine ⟨'1', _, rfl, rfl, ?_⟩
        rw [scanToken_of_isDigit (by decide), List.map_cons, List.cons_append, hscan]
        rfl

/-- The written form of a token starts the token, and the scanner leaves what follows it. -/
theorem scanToken_print (t : Token) {s : List Symbol} (h : ∀ n, t = .number n → EndsNumber s) :
    ∃ c cs, t.print = c :: cs ∧ isSpace c = false ∧
      scanToken c (cs.map some ++ s) = some (t, s) := by
  cases t with
  | number n => exact scanToken_number n (h n rfl)
  | text q =>
    have hprint : q.print = '"' :: q.print.drop 1 := by
      cases q with
      | plain t => rfl
      | flawed flaw => cases flaw <;> rfl
    exact ⟨'"', q.print.drop 1, hprint, rfl, scanToken_quote_append q s⟩
  | bool b => cases b <;> exact ⟨_, _, rfl, rfl, rfl⟩
  | _ => exact ⟨_, _, rfl, rfl, rfl⟩

theorem tokens?_cons {c : Char} {s r : List Symbol} {t : Token} (hspace : isSpace c = false)
    (h : scanToken c s = some (t, r)) : tokens? (some c :: s) = (tokens? r).map (t :: ·) := by
  rw [tokens?, if_neg (by simp only [hspace, Bool.false_eq_true, not_false_eq_true])]
  split
  · rename_i heq
    rw [h] at heq
    cases heq
  · rename_i heq
    rw [h] at heq
    cases heq
    rfl

/-- The symbols of written tokens. -/
def symbols (ts : List Token) : List Symbol := (ts.flatMap Token.print).map some

/-- Written tokens are found if `s` follows them. -/
def Scans (ts : List Token) (s : List Symbol) : Prop :=
  tokens? (symbols ts ++ s) = (tokens? s).map (ts ++ ·)

theorem Scans.nil (s : List Symbol) : Scans [] s := by
  rw [Scans]
  cases h : tokens? s <;> simp [symbols, h]

theorem Scans.append {ts us : List Token} {s : List Symbol} (hts : Scans ts (symbols us ++ s))
    (hus : Scans us s) : Scans (ts ++ us) s := by
  have hsymbols : symbols (ts ++ us) = symbols ts ++ symbols us := by
    rw [symbols, List.flatMap_append, List.map_append]
    rfl
  rw [Scans] at hts hus ⊢
  rw [hsymbols, List.append_assoc, hts, hus, Option.map_map]
  simp only [Function.comp_def, List.append_assoc]

theorem Scans.singleton (t : Token) {s : List Symbol} (h : ∀ n, t = .number n → EndsNumber s) :
    Scans [t] s := by
  obtain ⟨c, cs, hprint, hspace, hscan⟩ := scanToken_print t h
  have hsymbols : symbols [t] = some c :: cs.map some := by
    rw [symbols, List.flatMap_cons, List.flatMap_nil, List.append_nil, hprint, List.map_cons]
  rw [Scans, hsymbols, List.cons_append, tokens?_cons hspace hscan]
  rfl

theorem isDigit_of_isBlank {c : Char} (h : Text.isBlank c = true) :
    Decimal.isDigit c = false := by
  apply Bool.eq_false_iff.2
  intro hdigit
  have hrange := Decimal.toNat_of_isDigit hdigit
  simp only [Text.isBlank, Bool.or_eq_true, Bool.and_eq_true, decide_eq_true_eq,
    beq_iff_eq] at h
  omega

/-- No token starts with a blank. -/
theorem scanToken_of_isBlank {c : Char} (h : Text.isBlank c = true) (s : List Symbol) :
    scanToken c s = none := by
  unfold scanToken
  split
  case h_12 =>
    rw [scanNumber, scanDigits, isDigit_of_isBlank h]
    rfl
  all_goals exact absurd h (by decide)

/-- A text of blanks has no tokens, or is no text of tokens. -/
theorem tokens?_of_blanks {s : List Char} (h : s.all Text.isBlank = true) :
    ∀ ts, tokens? (s.map some) = some ts → ts = [] := by
  induction s with
  | nil =>
    intro ts hts
    rw [List.map_nil, tokens?] at hts
    exact (Option.some.inj hts).symm
  | cons c s ih =>
    rw [List.all_cons, Bool.and_eq_true] at h
    intro ts hts
    rw [List.map_cons, tokens?] at hts
    split at hts
    · exact ih h.2 ts hts
    · split at hts
      · cases hts
      · rename_i hscan
        rw [scanToken_of_isBlank h.1] at hscan
        cases hscan

end PlayerHub.Json
