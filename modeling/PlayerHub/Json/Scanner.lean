import PlayerHub.Json.Token

namespace PlayerHub.Json

/-- A symbol of a text to be scanned: a character, or `none` for bytes that are not UTF-8. -/
abbrev Symbol := Option Char

/-- A piece of a string: a character, or half of a surrogate pair, or something that is no text. -/
inductive Piece where
  | char (c : Char)
  | half (n : Nat)
  | garbled
deriving DecidableEq, Repr

/-- The piece that a four-digit escape writes. -/
def Piece.ofUnit (n : Nat) : Piece :=
  if 0xD800 ≤ n ∧ n ≤ 0xDFFF then .half n else .char (Char.ofNat n)

/-- The characters of a string, where halves that stand in pairs become characters. A reader gives
up at a half that stands alone, but a first half makes it look one symbol further, which may be the
closing quote. It looks for bytes that are not UTF-8 when it has come to the end. -/
def joinPieces : List Piece → Except Flaw (List Char)
  | [] => .ok []
  | .char c :: ps => (joinPieces ps).map (c :: ·)
  | .garbled :: ps => (joinPieces ps).bind fun _ => .error .atEnd
  | [.half n] => .error (if n < 0xDC00 then .atEnd else .inside)
  | .half hi :: .half lo :: ps =>
    if hi < 0xDC00 ∧ 0xDC00 ≤ lo then
      (joinPieces ps).map (Char.ofNat (0x10000 + (hi - 0xD800) * 1024 + (lo - 0xDC00)) :: ·)
    else .error .inside
  | .half _ :: _ :: _ => .error .inside

/-- What a string of the given pieces denotes. -/
def Quoted.ofPieces (ps : List Piece) : Quoted :=
  match joinPieces ps with
  | .ok cs => .plain (String.ofList cs)
  | .error flaw => .flawed flaw

/-- The character that a one-letter escape writes. -/
def escaped? (c : Char) : Option Char :=
  match c with
  | '"' => some '"'
  | '\\' => some '\\'
  | '/' => some '/'
  | 'b' => some '\x08'
  | 'f' => some '\x0c'
  | 'n' => some '\n'
  | 'r' => some '\r'
  | 't' => some '\t'
  | _ => none

/-- The number that four symbols write in hexadecimal. -/
def unit? : Symbol → Symbol → Symbol → Symbol → Option Nat
  | some a, some b, some c, some d =>
    match Hex.digit? a, Hex.digit? b, Hex.digit? c, Hex.digit? d with
    | some a, some b, some c, some d => some (Hex.quad a b c d)
    | _, _, _, _ => none
  | _, _, _, _ => none

/-- Reads a string behind its opening quote: the pieces and what follows the closing quote.
Control characters have to be escaped. -/
def scanString : List Symbol → Option (List Piece × List Symbol)
  | [] => none
  | some '"' :: s => some ([], s)
  | some '\\' :: some 'u' :: a :: b :: c :: d :: s => do
    let n ← unit? a b c d
    let (ps, r) ← scanString s
    return (Piece.ofUnit n :: ps, r)
  | some '\\' :: some e :: s => do
    let c ← escaped? e
    let (ps, r) ← scanString s
    return (.char c :: ps, r)
  | some c :: s =>
    if c.toNat < 32 ∨ c = '\\' then none
    else do
      let (ps, r) ← scanString s
      return (.char c :: ps, r)
  | none :: s => do
    let (ps, r) ← scanString s
    return (.garbled :: ps, r)

/-- The longest run of digits at the start, and what follows it. -/
def scanDigits : List Symbol → List Char × List Symbol
  | [] => ([], [])
  | some c :: s =>
    if Decimal.isDigit c then
      let (ds, r) := scanDigits s
      (c :: ds, r)
    else ([], some c :: s)
  | none :: s => ([], none :: s)

/-- Reads digits, of which there has to be one at least. -/
def scanSomeDigits (s : List Symbol) : Option (List Char × List Symbol) :=
  match scanDigits s with
  | ([], _) => none
  | (ds, r) => some (ds, r)

/-- Reads a fraction if there is one: its digits, and what follows. -/
def scanFraction : List Symbol → Option (List Char × List Symbol)
  | some '.' :: s => scanSomeDigits s
  | s => some ([], s)

/-- Reads a sign if there is one: whether it is a minus sign, and what follows. -/
def scanSign : List Symbol → Bool × List Symbol
  | some '+' :: s => (false, s)
  | some '-' :: s => (true, s)
  | s => (false, s)

/-- Reads an exponent if there is one: whether it has a minus sign, its digits, and what follows. -/
def scanExponent : List Symbol → Option (Bool × List Char × List Symbol)
  | some e :: s =>
    if e = 'e' ∨ e = 'E' then
      (scanSomeDigits (scanSign s).2).map fun (ds, r) => ((scanSign s).1, ds, r)
    else some (false, [], some e :: s)
  | s => some (false, [], s)

/-- Reads a number behind its sign. Its digits have no leading zero. -/
def scanNumber (negative : Bool) (s : List Symbol) : Option (Number × List Symbol) := do
  let (whole, s) := scanDigits s
  if whole = [] ∨ (whole.head? = some '0' ∧ whole ≠ ['0']) then none
  else
    let (fraction, s) ← scanFraction s
    let (down, exponent, s) ← scanExponent s
    return (.ofNumeral negative ⟨whole, fraction, down, exponent⟩, s)

/-- Whether a character may stand between tokens. -/
def isSpace (c : Char) : Bool := c == ' ' || c == '\t' || c == '\n' || c == '\r'

/-- Reads the token at the start of a text that starts with the symbol `c`, if `c` is no space. -/
def scanToken (c : Char) (s : List Symbol) : Option (Token × List Symbol) :=
  match c, s with
  | '[', s => some (.openList, s)
  | ']', s => some (.closeList, s)
  | '\x7b', s => some (.openRecord, s)
  | '\x7d', s => some (.closeRecord, s)
  | ',', s => some (.comma, s)
  | ':', s => some (.colon, s)
  | 'n', some 'u' :: some 'l' :: some 'l' :: s => some (.null, s)
  | 't', some 'r' :: some 'u' :: some 'e' :: s => some (.bool true, s)
  | 'f', some 'a' :: some 'l' :: some 's' :: some 'e' :: s => some (.bool false, s)
  | '"', s => (scanString s).map fun (ps, r) => (.text (.ofPieces ps), r)
  | '-', s => (scanNumber true s).map fun (n, r) => (.number n, r)
  | c, s => (scanNumber false (some c :: s)).map fun (n, r) => (.number n, r)

theorem length_of_scanString {s r : List Symbol} {ps : List Piece}
    (h : scanString s = some (ps, r)) : r.length ≤ s.length := by
  fun_induction scanString s generalizing ps r with
  | case1 => cases h
  | case2 s => cases h; exact Nat.le_succ _
  | case3 a b c d s ih =>
    simp only [Option.bind_eq_bind, Option.bind_eq_some_iff, Option.pure_def, Option.some.injEq,
      Prod.mk.injEq] at h
    obtain ⟨n, -, ⟨qs, q⟩, hq, -, rfl⟩ := h
    have := ih hq
    simp only [List.length_cons]; omega
  | case4 e s _ ih =>
    simp only [Option.bind_eq_bind, Option.bind_eq_some_iff, Option.pure_def, Option.some.injEq,
      Prod.mk.injEq] at h
    obtain ⟨n, -, ⟨qs, q⟩, hq, -, rfl⟩ := h
    have := ih hq
    simp only [List.length_cons]; omega
  | case5 => cases h
  | case6 c s _ _ _ _ ih =>
    simp only [Option.bind_eq_bind, Option.bind_eq_some_iff, Option.pure_def, Option.some.injEq,
      Prod.mk.injEq] at h
    obtain ⟨⟨qs, q⟩, hq, -, rfl⟩ := h
    have := ih hq
    simp only [List.length_cons]; omega
  | case7 s ih =>
    simp only [Option.bind_eq_bind, Option.bind_eq_some_iff, Option.pure_def, Option.some.injEq,
      Prod.mk.injEq] at h
    obtain ⟨⟨qs, q⟩, hq, -, rfl⟩ := h
    have := ih hq
    simp only [List.length_cons]; omega

theorem length_scanDigits (s : List Symbol) :
    (scanDigits s).1.length + (scanDigits s).2.length = s.length := by
  fun_induction scanDigits s with
  | case1 => rfl
  | case2 c s h ds r heq ih => simp_all; omega
  | case3 c s h => simp
  | case4 s => simp

theorem length_of_scanSomeDigits {s r : List Symbol} {ds : List Char}
    (h : scanSomeDigits s = some (ds, r)) : r.length ≤ s.length := by
  have hd := length_scanDigits s
  unfold scanSomeDigits at h
  split at h
  · cases h
  · rename_i heq
    cases h
    rw [heq] at hd
    dsimp only at hd; omega

theorem length_scanSign_le (s : List Symbol) : (scanSign s).2.length ≤ s.length := by
  fun_cases scanSign s <;> simp

theorem length_of_scanFraction {s r : List Symbol} {ds : List Char}
    (h : scanFraction s = some (ds, r)) : r.length ≤ s.length := by
  unfold scanFraction at h
  split at h
  · exact Nat.le_succ_of_le (length_of_scanSomeDigits h)
  · cases h; exact Nat.le_refl _

theorem length_of_scanExponent {s r : List Symbol} {down : Bool} {ds : List Char}
    (h : scanExponent s = some (down, ds, r)) : r.length ≤ s.length := by
  unfold scanExponent at h
  split at h
  · rename_i e s
    have hs := length_scanSign_le s
    split at h
    · obtain ⟨⟨es, q⟩, hq, h⟩ := Option.map_eq_some_iff.1 h
      cases h
      have := length_of_scanSomeDigits hq
      simp only [List.length_cons]; omega
    · cases h; exact Nat.le_refl _
  · cases h; exact Nat.le_refl _

theorem length_of_scanNumber {negative : Bool} {s r : List Symbol} {n : Number}
    (h : scanNumber negative s = some (n, r)) : r.length < s.length := by
  have hd := length_scanDigits s
  unfold scanNumber at h
  generalize scanDigits s = d at hd h
  obtain ⟨ds, s'⟩ := d
  simp only at h hd
  split at h
  · cases h
  · rename_i hne
    have hpos : 0 < ds.length := by
      cases ds with
      | nil => simp at hne
      | cons => simp
    simp only [Option.bind_eq_bind, Option.bind_eq_some_iff] at h
    obtain ⟨⟨f, s₁⟩, hf, ⟨down, e, s₂⟩, he, h⟩ := h
    have h₁ := length_of_scanFraction hf
    have h₂ := length_of_scanExponent he
    cases h
    dsimp only at h₁ h₂ hd ⊢
    omega

/-- A token takes its first symbol at least. -/
theorem length_of_scanToken {c : Char} {s r : List Symbol} {t : Token}
    (h : scanToken c s = some (t, r)) : r.length ≤ s.length := by
  unfold scanToken at h
  split at h
  case h_10 =>
    obtain ⟨⟨ps, q⟩, hq, h⟩ := Option.map_eq_some_iff.1 h
    cases h
    exact length_of_scanString hq
  case h_11 =>
    obtain ⟨⟨n, q⟩, hq, h⟩ := Option.map_eq_some_iff.1 h
    cases h
    exact Nat.le_of_lt (length_of_scanNumber hq)
  case h_12 =>
    obtain ⟨⟨n, q⟩, hq, h⟩ := Option.map_eq_some_iff.1 h
    cases h
    exact Nat.le_of_lt_succ (length_of_scanNumber hq)
  all_goals
    obtain ⟨rfl, rfl⟩ := Prod.mk.inj (Option.some.inj h)
    simp only [List.length_cons, Nat.le_refl] <;> omega

/-- The tokens of a text, or `none` if a symbol starts no token. -/
def tokens? (s : List Symbol) : Option (List Token) :=
  match s with
  | [] => some []
  | none :: _ => none
  | some c :: s =>
    if isSpace c then tokens? s
    else
      match h : scanToken c s with
      | none => none
      | some (t, r) =>
        have := length_of_scanToken h
        (tokens? r).map (t :: ·)
termination_by s.length
decreasing_by all_goals simp only [List.length_cons]; omega

end PlayerHub.Json
