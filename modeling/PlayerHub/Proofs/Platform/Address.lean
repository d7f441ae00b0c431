import PlayerHub.Platform.Address
import PlayerHub.Proofs.Text.Form

namespace PlayerHub

/-- A sign that a query escapes is no digit. -/
theorem Hex.digit?_of_isQueryEscaped {c : Char} (h : Address.isQueryEscaped c = true) :
    digit? c = none := by
  have hle (a b : Char) : a ≤ b ↔ a.toNat ≤ b.toNat := UInt32.le_iff_toNat_le
  have hchars : '0'.toNat = 48 ∧ '9'.toNat = 57 ∧ 'a'.toNat = 97 ∧ 'f'.toNat = 102 ∧
      'A'.toNat = 65 ∧ 'F'.toNat = 70 := by decide
  simp only [Address.isQueryEscaped, Address.isNeverPlain, Bool.or_eq_true, decide_eq_true_eq,
    beq_iff_eq] at h
  rcases h with (((((h | h) | rfl) | rfl) | rfl) | rfl) | rfl
  · simp only [digit?, hle]
    rw [if_neg (by omega), if_neg (by omega), if_neg (by omega)]
  · simp only [digit?, hle]
    rw [if_neg (by omega), if_neg (by omega), if_neg (by omega)]
  all_goals rfl

theorem Utf8.exists_encode_singleton (c : Char) : ∃ b bytes, encode [c] = b :: bytes := by
  rw [encode, List.flatMap_singleton, encodeNat]
  split
  · exact ⟨_, _, rfl⟩
  split
  · exact ⟨_, _, rfl⟩
  split
  · exact ⟨_, _, rfl⟩
  · exact ⟨_, _, rfl⟩

namespace Form

/-- Whether two digits stand at the front, so that they would complete an escape. -/
def CompletesEscape (s : List Char) : Prop :=
  ∃ a b t, s = a :: b :: t ∧ (Hex.digit? a).isSome = true ∧ (Hex.digit? b).isSome = true

theorem percentDecode_percent {plus : UInt8} {s : List Char} (h : ¬ CompletesEscape s) :
    percentDecode plus ('%' :: s) = Utf8.encode ['%'] ++ percentDecode plus s := by
  match s with
  | [] => rfl
  | [_] => rfl
  | a :: b :: t =>
    rw [percentDecode]
    split
    · rename_i x y ha hb
      exact absurd ⟨a, b, t, rfl, by rw [ha]; rfl, by rw [hb]; rfl⟩ h
    · rfl

/-- Escaped bytes are read back. -/
theorem percentDecode_flatMap_append {plus : UInt8} (bytes : List UInt8) (s : List Char) :
    percentDecode plus (bytes.flatMap (fun b => '%' :: Hex.ofByte b) ++ s) =
      bytes ++ percentDecode plus s := by
  induction bytes with
  | nil => rfl
  | cons b bytes ih =>
    rw [List.flatMap_cons, List.append_assoc, Hex.ofByte, List.cons_append, List.cons_append,
      List.singleton_append, percentDecode_hex (Hex.digit?_upper _) (Hex.digit?_upper _),
      Hex.byte_ofNat, ih, List.cons_append]

end Form

namespace Address

theorem escape_cons_of_not {escaped : Char → Bool} {c : Char} (h : escaped c = false)
    (s : List Char) : escape escaped (c :: s) = c :: escape escaped s := by
  rw [escape, List.flatMap_cons, h]
  rfl

theorem escape_cons_of_escaped {escaped : Char → Bool} {c : Char} (h : escaped c = true)
    (s : List Char) : escape escaped (c :: s) =
      (Utf8.encode [c]).flatMap (fun b => '%' :: Hex.ofByte b) ++ escape escaped s := by
  rw [escape, List.flatMap_cons, if_pos h]
  rfl

theorem escape_append (escaped : Char → Bool) (s t : List Char) :
    escape escaped (s ++ t) = escape escaped s ++ escape escaped t :=
  List.flatMap_append

/-- Escaping brings no character but the percent sign and the digits. -/
theorem mem_escape {escaped : Char → Bool} {c : Char} {s : List Char} (h : c ∈ escape escaped s) :
    (c = '%' ∨ ∃ d, c = Hex.upper d) ∨ c ∈ s ∧ escaped c = false := by
  obtain ⟨a, ha, hpiece⟩ := List.mem_flatMap.1 h
  split at hpiece
  · obtain ⟨b, -, hb⟩ := List.mem_flatMap.1 hpiece
    simp only [Hex.ofByte, List.mem_cons, List.not_mem_nil, or_false] at hb
    rcases hb with rfl | rfl | rfl
    · exact .inl (.inl rfl)
    · exact .inl (.inr ⟨_, rfl⟩)
    · exact .inl (.inr ⟨_, rfl⟩)
  · rename_i hnot
    obtain rfl := List.mem_singleton.1 hpiece
    exact .inr ⟨ha, Bool.of_not_eq_true hnot⟩

/-- Nothing is left that has to be escaped. -/
theorem escaped_eq_false_of_mem_escape {escaped : Char → Bool} (hpercent : escaped '%' = false)
    (hdigits : ∀ d, escaped (Hex.upper d) = false) {s : List Char} :
    ∀ c ∈ escape escaped s, escaped c = false := by
  intro c hc
  rcases mem_escape hc with (rfl | ⟨d, rfl⟩) | ⟨-, hc⟩
  · exact hpercent
  · exact hdigits d
  · exact hc

theorem separator_not_mem_escape {sep : Char} (hsep : sep = '&' ∨ sep = '=') {s : List Char}
    (h : sep ∉ s) : sep ∉ escape isQueryEscaped s := by
  have hdigits : ∀ d : Fin 16, '&' ≠ Hex.upper d ∧ '=' ≠ Hex.upper d := by decide
  intro hmem
  rcases mem_escape hmem with (rfl | ⟨d, rfl⟩) | ⟨hmem, -⟩
  · rcases hsep with hsep | hsep
    · cases hsep
    · cases hsep
  · rcases hsep with hsep | hsep
    · exact (hdigits d).1 hsep.symm
    · exact (hdigits d).2 hsep.symm
  · exact h hmem

/-- Escaping a query brings no digit to the front. -/
theorem eq_of_escape_eq_cons {s t : List Char} {a : Char} (h : escape isQueryEscaped s = a :: t)
    (ha : (Hex.digit? a).isSome = true) : ∃ r, s = a :: r ∧ t = escape isQueryEscaped r := by
  cases s with
  | nil => cases h
  | cons c r =>
    cases hc : isQueryEscaped c with
    | true =>
      obtain ⟨b, bytes, hbytes⟩ := Utf8.exists_encode_singleton c
      rw [escape_cons_of_escaped hc, hbytes] at h
      cases h
      cases ha
    | false =>
      rw [escape_cons_of_not hc] at h
      cases h
      exact ⟨r, rfl, rfl⟩

theorem completesEscape_of_escape {s : List Char}
    (h : Form.CompletesEscape (escape isQueryEscaped s)) : Form.CompletesEscape s := by
  obtain ⟨a, b, t, heq, ha, hb⟩ := h
  obtain ⟨r, rfl, hr⟩ := eq_of_escape_eq_cons heq ha
  obtain ⟨r, rfl, -⟩ := eq_of_escape_eq_cons hr.symm hb
  exact ⟨a, b, r, rfl, ha, hb⟩

theorem percentDecode_percent_escape {plus : UInt8} {s : List Char}
    (h : ¬ Form.CompletesEscape s)
    (ih : Form.percentDecode plus (escape isQueryEscaped s) = Form.percentDecode plus s) :
    Form.percentDecode plus (escape isQueryEscaped ('%' :: s)) =
      Utf8.encode ['%'] ++ Form.percentDecode plus s := by
  rw [escape_cons_of_not rfl, Form.percentDecode_percent (mt completesEscape_of_escape h), ih]

/-- A query says the same when it has been escaped. -/
theorem percentDecode_escape (plus : UInt8) (s : List Char) :
    Form.percentDecode plus (escape isQueryEscaped s) = Form.percentDecode plus s := by
  have hdigit {a : Char} {x : Fin 16} (ha : Hex.digit? a = some x) : isQueryEscaped a = false := by
    by_contra h
    rw [Hex.digit?_of_isQueryEscaped (Bool.of_not_eq_false h)] at ha
    cases ha
  fun_induction Form.percentDecode plus s with
  | case1 => rfl
  | case2 s ih => rw [escape_cons_of_not rfl, Form.percentDecode_plus, ih]
  | case3 a b s x y hb ha ih =>
    rw [escape_cons_of_not rfl, escape_cons_of_not (hdigit ha), escape_cons_of_not (hdigit hb),
      Form.percentDecode_hex ha hb, ih]
  | case4 a b s hnot ih =>
    apply percentDecode_percent_escape _ ih
    rintro ⟨a', b', t, heq, ha, hb⟩
    cases heq
    obtain ⟨x, hx⟩ := Option.isSome_iff_exists.1 ha
    obtain ⟨y, hy⟩ := Option.isSome_iff_exists.1 hb
    exact hnot x y hx hy
  | case5 c s hplus hpercent ih =>
    by_cases hc : c = '%'
    · subst hc
      apply percentDecode_percent_escape _ ih
      rintro ⟨a, b, t, rfl, -, -⟩
      exact hpercent a b t rfl rfl
    · cases hescaped : isQueryEscaped c with
      | true => rw [escape_cons_of_escaped hescaped, Form.percentDecode_flatMap_append, ih]
      | false => rw [escape_cons_of_not hescaped, Form.percentDecode_cons hplus hc, ih]

theorem escape_ne_nil {s : List Char} (h : s ≠ []) : escape isQueryEscaped s ≠ [] := by
  obtain ⟨c, s, rfl⟩ := List.exists_cons_of_ne_nil h
  cases hc : isQueryEscaped c with
  | true =>
    obtain ⟨b, bytes, hbytes⟩ := Utf8.exists_encode_singleton c
    rw [escape_cons_of_escaped hc, hbytes]
    exact List.cons_ne_nil _ _
  | false =>
    rw [escape_cons_of_not hc]
    exact List.cons_ne_nil _ _

theorem decodePair_escape (s : List Char) :
    Form.decodePair (escape isQueryEscaped s) = Form.decodePair s := by
  have htext (s : List Char) : Form.text (escape isQueryEscaped s) = Form.text s := by
    rw [Form.text, Form.text, Form.unescape, percentDecode_escape]
  by_cases h : '=' ∈ s
  · obtain ⟨name, value, rfl, hname⟩ := List.eq_append_cons_of_mem h
    rw [escape_append, escape_cons_of_not rfl, Form.decodePair_append_cons hname,
      Form.decodePair_append_cons (separator_not_mem_escape (.inr rfl) hname), htext, htext]
  · rw [Form.decodePair_of_not_mem h,
      Form.decodePair_of_not_mem (separator_not_mem_escape (.inr rfl) h), htext]

theorem decode_escape_of_not_mem {s : List Char} (h : '&' ∉ s) :
    Form.decode (escape isQueryEscaped s) = Form.decode s := by
  by_cases hs : s = []
  · rw [hs]
    rfl
  · rw [Form.decode_of_not_mem (separator_not_mem_escape (.inl rfl) h) (escape_ne_nil hs),
      Form.decode_of_not_mem h hs, decodePair_escape]

/-- A query gives the same pairs when it has been escaped. -/
theorem decode_escape (s : List Char) :
    Form.decode (escape isQueryEscaped s) = Form.decode s := by
  induction hlength : s.length using Nat.strong_induction_on generalizing s with
  | _ n ih =>
    by_cases h : '&' ∈ s
    · obtain ⟨first, rest, rfl, hfirst⟩ := List.eq_append_cons_of_mem h
      have hrest : rest.length < n := by
        rw [← hlength, List.length_append, List.length_cons]
        omega
      rw [escape_append, escape_cons_of_not rfl, Form.decode_append_cons, Form.decode_append_cons,
        decode_escape_of_not_mem hfirst, ih _ hrest rest rfl]
    · exact decode_escape_of_not_mem h

theorem forall_mem_intercalate {p : Char → Prop} {sep : List Char} {parts : List (List Char)}
    (hsep : ∀ c ∈ sep, p c) (h : ∀ s ∈ parts, ∀ c ∈ s, p c) :
    ∀ c ∈ sep.intercalate parts, p c := by
  induction parts with
  | nil => exact fun c hc => absurd hc List.not_mem_nil
  | cons s parts ih =>
    obtain ⟨hs, hparts⟩ := List.forall_mem_cons.1 h
    cases parts with
    | nil => rwa [List.intercalate_singleton]
    | cons t parts =>
      rw [List.intercalate_cons_cons]
      exact List.forall_mem_append.2 ⟨List.forall_mem_append.2 ⟨hs, hsep⟩, ih hparts⟩

theorem isPathEscaped_eq_false_of_mem_walk {done rest : List (List Char)}
    (h : ∀ s ∈ done, ∀ c ∈ s, isPathEscaped c = false) :
    ∀ s ∈ walk done rest, ∀ c ∈ s, isPathEscaped c = false := by
  have hempty {done : List (List Char)} (h : ∀ s ∈ done, ∀ c ∈ s, isPathEscaped c = false)
      (p : Prop) [Decidable p] :
      ∀ s ∈ if p then [] :: done else done, ∀ c ∈ s, isPathEscaped c = false := by
    split
    · exact List.forall_mem_cons.2 ⟨fun c hc => absurd hc List.not_mem_nil, h⟩
    · exact h
  fun_induction walk done rest with
  | case1 => exact h
  | case2 done s rest _ ih =>
    exact ih (hempty (fun s hs => h s (List.mem_of_mem_drop hs)) _)
  | case3 done s rest _ _ ih => exact ih (hempty h _)
  | case4 done s rest _ _ ih =>
    exact ih (List.forall_mem_cons.2 ⟨escaped_eq_false_of_mem_escape rfl (by decide), h⟩)

theorem isPathEscaped_eq_false_of_mem_normalPath (s : List Char) :
    ∀ c ∈ normalPath s, isPathEscaped c = false := by
  refine List.forall_mem_cons.2
    ⟨rfl, forall_mem_intercalate (List.forall_mem_singleton.2 rfl) fun part hpart => ?_⟩
  exact isPathEscaped_eq_false_of_mem_walk (fun s hs => absurd hs List.not_mem_nil) part
    (List.mem_reverse.1 hpart)

/-- What a text writes between its first question mark and the number sign after which nothing
counts. -/
def queryIn (text : String) : List Char :=
  (((trimmed text).takeWhile (· != '#')).dropWhile (· != '?')).drop 1

/-- Just the schemes `http` and `https` are taken, in any case. -/
theorem afterScheme?_eq_some_iff {s rest : List Char} {secure : Bool} :
    afterScheme? s = some (secure, rest) ↔ ∃ scheme, s = scheme ++ rest ∧
      scheme.map Char.toLower = (if secure then "https:" else "http:").toList := by
  constructor
  · intro h
    unfold afterScheme? at h
    split at h
    · rename_i hname
      cases h
      exact ⟨s.take 5, (List.take_append_drop 5 s).symm, hname⟩
    split at h
    · rename_i hname
      cases h
      exact ⟨s.take 6, (List.take_append_drop 6 s).symm, hname⟩
    · cases h
  · rintro ⟨scheme, rfl, hname⟩
    have hlength := congrArg List.length hname
    rw [List.length_map] at hlength
    cases secure with
    | false =>
      replace hname : scheme.map Char.toLower = "http:".toList := hname
      replace hlength : scheme.length = 5 := hlength
      rw [afterScheme?, List.take_left' hlength, if_pos hname, List.drop_left' hlength]
    | true =>
      replace hname : scheme.map Char.toLower = "https:".toList := hname
      replace hlength : scheme.length = 6 := hlength
      have hother : ((scheme ++ rest).take 5).map Char.toLower ≠ "http:".toList := by
        rw [List.take_append_of_le_length (by omega), List.map_take, hname]
        decide
      rw [afterScheme?, if_neg hother, List.take_left' hlength, if_pos hname,
        List.drop_left' hlength]

/-- The scheme has no sign in it that ends a part of an address. -/
theorem exists_scheme_of_afterScheme? {s rest : List Char} {secure : Bool}
    (h : afterScheme? s = some (secure, rest)) :
    ∃ scheme, s = scheme ++ rest ∧ '?' ∉ scheme ∧ '#' ∉ scheme := by
  obtain ⟨scheme, hs, hname⟩ := afterScheme?_eq_some_iff.1 h
  have hnot {c : Char} (hc : c.toLower ∉ (if secure then "https:" else "http:").toList) :
      c ∉ scheme := fun hmem => hc (hname ▸ List.mem_map_of_mem hmem)
  refine ⟨scheme, hs, hnot ?_, hnot ?_⟩
  · cases secure <;> decide
  · cases secure <;> decide

/-- A query begins behind whatever has neither of the two signs in it. -/
theorem dropWhile_takeWhile_append {front : List Char} (hquery : '?' ∉ front)
    (hnumber : '#' ∉ front) (s : List Char) :
    ((front ++ s).takeWhile (· != '#')).dropWhile (· != '?') =
      (s.takeWhile (· != '#')).dropWhile (· != '?') := by
  rw [List.takeWhile_append_of_pos (Form.ne_of_not_mem hnumber),
    List.dropWhile_append_of_pos (Form.ne_of_not_mem hquery)]

theorem not_mem_takeWhile {p : Char → Bool} {c : Char} (h : p c = false) (s : List Char) :
    c ∉ s.takeWhile p := by
  intro hmem
  rw [List.mem_takeWhile_imp hmem] at h
  cases h

/-- What stands before the last at sign of an authority does not count. -/
theorem isUsable_append_at (user : List Char) {place : List Char} (h : '@' ∉ place) :
    isUsable (user ++ '@' :: place) = isUsable place := by
  have hplace : place.reverse.takeWhile (· != '@') = place.reverse :=
    List.takeWhile_eq_self_iff.2 fun c hc => Form.ne_of_not_mem h c (List.mem_reverse.1 hc)
  have hreverse : (user ++ '@' :: place).reverse = place.reverse ++ '@' :: user.reverse := by
    rw [List.reverse_append, List.reverse_cons, List.append_assoc, List.singleton_append]
  have hlast : (user ++ '@' :: place).reverse.takeWhile (· != '@') = place.reverse := by
    rw [hreverse, List.takeWhile_append_of_pos (List.takeWhile_eq_self_iff.1 hplace),
      List.takeWhile_cons_of_neg (by decide), List.append_nil]
  rw [isUsable, isUsable, hlast, hplace]

theorem exists_parse?_iff_afterScheme? {text : String} :
    (∃ a, parse? text = some a) ↔ ∃ secure rest,
      afterScheme? (trimmed text) = some (secure, rest) ∧
        isUsable ((rest.dropWhile isSlash).takeWhile (!endsAuthority ·)) = true := by
  unfold parse?
  simp only [Option.bind_eq_bind, Option.bind_eq_some_iff, Option.pure_def,
    Option.ite_none_right_eq_some]
  constructor
  · rintro ⟨a, ⟨secure, rest⟩, hscheme, husable, -⟩
    exact ⟨secure, rest, hscheme, husable⟩
  · rintro ⟨secure, rest, hscheme, husable⟩
    exact ⟨_, (secure, rest), hscheme, husable, rfl⟩

/-- An authority that can be called is found where it stands, behind any slashes. -/
theorem takeWhile_dropWhile_of_isUsable {slashes authority rest : List Char}
    (hslashes : ∀ c ∈ slashes, isSlash c = true) (husable : isUsable authority = true)
    (hauthority : ∀ c ∈ authority, endsAuthority c = false)
    (hrest : ∀ c, rest.head? = some c → endsAuthority c = true) :
    ((slashes ++ (authority ++ rest)).dropWhile isSlash).takeWhile (!endsAuthority ·) =
      authority := by
  have hinside : ∀ c ∈ authority, (!endsAuthority c) = true := by
    intro c hc
    rw [hauthority c hc, Bool.not_false]
  have hbehind : rest.takeWhile (!endsAuthority ·) = [] := by
    cases rest with
    | nil => rfl
    | cons c rest => exact List.takeWhile_cons_of_neg (by rw [hrest c rfl]; decide)
  have hkept : (authority ++ rest).dropWhile isSlash = authority ++ rest := by
    cases authority with
    | nil => exact absurd husable (by decide +kernel)
    | cons c authority =>
      have hc := hauthority c List.mem_cons_self
      simp only [endsAuthority, Bool.or_eq_false_iff] at hc
      exact List.dropWhile_cons_of_neg (by rw [hc.1.1]; decide)
  rw [List.dropWhile_append_of_pos hslashes, hkept, List.takeWhile_append_of_pos hinside, hbehind,
    List.append_nil]

/-- An address that can be called is written with one of two schemes, with any slashes, and with an
authority that can be called. Whatever comes after that is taken as it is. -/
theorem exists_parse?_iff {text : String} :
    (∃ a, parse? text = some a) ↔ ∃ scheme slashes authority rest : List Char,
      trimmed text = scheme ++ (slashes ++ (authority ++ rest)) ∧
        (scheme.map Char.toLower = "http:".toList ∨
          scheme.map Char.toLower = "https:".toList) ∧
        (∀ c ∈ slashes, isSlash c = true) ∧ isUsable authority = true ∧
        (∀ c ∈ authority, endsAuthority c = false) ∧
        ∀ c, rest.head? = some c → endsAuthority c = true := by
  rw [exists_parse?_iff_afterScheme?]
  constructor
  · rintro ⟨secure, rest, hscheme, husable⟩
    obtain ⟨scheme, htext, hname⟩ := afterScheme?_eq_some_iff.1 hscheme
    let inside := rest.dropWhile isSlash
    refine ⟨scheme, rest.takeWhile isSlash, inside.takeWhile (!endsAuthority ·),
      inside.dropWhile (!endsAuthority ·), ?_, ?_, fun c => List.mem_takeWhile_imp, husable, ?_, ?_⟩
    · rw [htext, List.takeWhile_append_dropWhile, List.takeWhile_append_dropWhile]
    · cases secure with
      | false => exact .inl hname
      | true => exact .inr hname
    · intro c hc
      have hinside := List.mem_takeWhile_imp (p := (!endsAuthority ·)) hc
      rwa [Bool.not_eq_true'] at hinside
    · intro c hc
      have hhead := List.head?_dropWhile_not (!endsAuthority ·) inside
      rw [hc] at hhead
      simpa using hhead
  · rintro ⟨scheme, slashes, authority, rest, htext, hname, hslashes, husable, hauthority, hrest⟩
    rw [htext]
    rcases hname with hname | hname
    · refine ⟨false, _, afterScheme?_eq_some_iff.2 ⟨scheme, rfl, hname⟩, ?_⟩
      rw [takeWhile_dropWhile_of_isUsable hslashes husable hauthority hrest, husable]
    · refine ⟨true, _, afterScheme?_eq_some_iff.2 ⟨scheme, rfl, hname⟩, ?_⟩
      rw [takeWhile_dropWhile_of_isUsable hslashes husable hauthority hrest, husable]

/-- A host may be an address in brackets, and may stand behind a user and a password. -/
example : isUsable "user:p w@[1::2.3.4.5]:80".toList = true ∧ isUsable "a b".toList = false ∧
    isUsable "[1:2]".toList = false ∧ isUsable "a.0x1".toList = false := by
  decide +kernel

/-- An address in the form in which it is sent, with the pairs that a text writes. -/
structure IsWrittenBy (a : Address) (text : String) : Prop where
  path : ∀ c ∈ a.path, isPathEscaped c = false
  query : ∀ c ∈ a.query.getD [], isQueryEscaped c = false
  pairs : Form.decode (a.query.getD []) = Form.decode (queryIn text)

/-- What stands behind the question mark is kept, if there is one. -/
theorem isWrittenBy_of_query {text : String} {a : Address} {path s : List Char}
    (hpath : a.path = normalPath path)
    (hquery : a.query = match s with
      | _ :: q => some (escape isQueryEscaped q)
      | [] => none)
    (h : queryIn text = s.drop 1) : a.IsWrittenBy text := by
  constructor
  · rw [hpath]
    exact isPathEscaped_eq_false_of_mem_normalPath path
  · rw [hquery]
    cases s with
    | nil => exact fun c hc => absurd hc List.not_mem_nil
    | cons _ q => exact escaped_eq_false_of_mem_escape rfl (by decide)
  · rw [hquery, h]
    cases s with
    | nil => rfl
    | cons _ q => exact decode_escape q

/-- The query of an address is all that its text has between the first question mark and the number
sign, brought to the form in which it is sent. No other part of the text gets into it. -/
theorem isWrittenBy_of_parse? {text : String} {a : Address} (h : parse? text = some a) :
    a.IsWrittenBy text := by
  change (afterScheme? (trimmed text)).bind _ = some a at h
  obtain ⟨⟨secure, rest⟩, hscheme, h⟩ := Option.bind_eq_some_iff.1 h
  obtain ⟨scheme, htext, hschemeQuery, hschemeNumber⟩ := exists_scheme_of_afterScheme? hscheme
  -- Slashes and the authority stand between the scheme and the path.
  let behind := (rest.dropWhile isSlash).dropWhile (!endsAuthority ·)
  have hquery : queryIn text =
      ((behind.takeWhile (· != '#')).dropWhile (· != '?')).drop 1 := by
    rw [queryIn, htext, dropWhile_takeWhile_append hschemeQuery hschemeNumber,
      ← List.takeWhile_append_dropWhile (p := isSlash) (l := rest),
      dropWhile_takeWhile_append (not_mem_takeWhile rfl _) (not_mem_takeWhile rfl _),
      ← List.takeWhile_append_dropWhile (p := (!endsAuthority ·)) (l := rest.dropWhile isSlash),
      dropWhile_takeWhile_append (not_mem_takeWhile rfl _) (not_mem_takeWhile rfl _)]
  dsimp only at h
  split at h
  · cases h
    exact isWrittenBy_of_query rfl rfl hquery
  · cases h

theorem isQueryEscaped_eq_false_of_mem_encode (pairs : List (String × String)) :
    ∀ c ∈ Form.encode pairs, isQueryEscaped c = false := by
  have hbyte : ∀ b, (Form.escapeByte b).all (!isQueryEscaped ·) = true :=
    forall_byte (by decide +kernel)
  have hescape (s : String) : ∀ c ∈ Form.escape s, isQueryEscaped c = false := by
    intro c hc
    obtain ⟨b, -, hb⟩ := List.mem_flatMap.1 hc
    rw [← Bool.not_eq_true']
    exact List.all_eq_true.1 (hbyte b) c hb
  refine forall_mem_intercalate (List.forall_mem_singleton.2 rfl) fun part hpart => ?_
  obtain ⟨p, -, rfl⟩ := List.mem_map.1 hpart
  exact List.forall_mem_append.2 ⟨hescape p.1, List.forall_mem_cons.2 ⟨rfl, hescape p.2⟩⟩

/-- The pairs that are added stand behind those that are there. -/
theorem exists_query_addPairs {a : Address}
    (h : ∀ c ∈ a.query.getD [], isQueryEscaped c = false) (pairs : List (String × String)) :
    ∃ q, (a.addPairs pairs).query = some q ∧ (∀ c ∈ q, isQueryEscaped c = false) ∧
      Form.decode q = Form.decode (a.query.getD []) ++ pairs := by
  have hpairs := isQueryEscaped_eq_false_of_mem_encode pairs
  obtain ⟨secure, authority, path, query⟩ := a
  match query with
  | none => exact ⟨_, rfl, hpairs, Form.decode_encode pairs⟩
  | some [] => exact ⟨_, rfl, hpairs, Form.decode_encode pairs⟩
  | some (c :: q) =>
    refine ⟨_, rfl, List.forall_mem_append.2 ⟨h, List.forall_mem_cons.2 ⟨rfl, hpairs⟩⟩, ?_⟩
    rw [Form.decode_append_cons, Form.decode_encode]
    rfl

theorem isPathEscaped_eq_false_iff {c : Char} :
    isPathEscaped c = false ↔
      isNeverPlain c = false ∧ c ≠ '#' ∧ c ≠ '?' ∧ c ≠ '\x60' ∧ c ≠ '\x7b' ∧ c ≠ '\x7d' := by
  simp only [isPathEscaped, Bool.or_eq_false_iff, beq_eq_false_iff_ne, and_assoc]

theorem isQueryEscaped_eq_false_iff {c : Char} :
    isQueryEscaped c = false ↔ isNeverPlain c = false ∧ c ≠ '#' ∧ c ≠ '\'' := by
  simp only [isQueryEscaped, Bool.or_eq_false_iff, beq_eq_false_iff_ne, and_assoc]

theorem lt_toNat_of_isNeverPlain_eq_false {c : Char} (h : isNeverPlain c = false) :
    0x20 < c.toNat := by
  simp only [isNeverPlain, Bool.or_eq_false_iff, decide_eq_false_iff_not] at h
  omega

/-- Nothing is passed over where no character has to be escaped. -/
theorem trimmed_eq_toList {text : String} (h : ∀ c ∈ text.toList, isNeverPlain c = false) :
    trimmed text = text.toList := by
  have hkept {s : List Char} (h : ∀ c ∈ s, isNeverPlain c = false) :
      s.dropWhile (·.toNat ≤ 0x20) = s := by
    cases s with
    | nil => rfl
    | cons c s =>
      have hc := lt_toNat_of_isNeverPlain_eq_false (h c List.mem_cons_self)
      exact List.dropWhile_cons_of_neg (by rw [decide_eq_true_eq]; omega)
  have hreverse : ∀ c ∈ text.toList.reverse, isNeverPlain c = false :=
    fun c hc => h c (List.mem_reverse.1 hc)
  rw [trimmed, hkept h, hkept hreverse, List.reverse_reverse, List.filter_eq_self]
  intro c hc
  have hlt := lt_toNat_of_isNeverPlain_eq_false (h c hc)
  have hne {d : Char} (hd : d.toNat ≤ 0x20) : (c != d) = true := by
    rw [bne_iff_ne]
    rintro rfl
    omega
  rw [hne (by decide), hne (by decide), hne (by decide)]
  rfl

/-- What is sent is read from its first question mark on, to its end. -/
theorem queryIn_target {a : Address} {q : List Char}
    (hpath : ∀ c ∈ a.path, isPathEscaped c = false) (hquery : a.query = some q)
    (hq : ∀ c ∈ q, isQueryEscaped c = false) : queryIn a.target = q := by
  have htarget : a.target.toList = a.path ++ '?' :: q := by
    rw [target, hquery, String.toList_ofList]
  have hplain : ∀ c ∈ a.path ++ '?' :: q, isNeverPlain c = false ∧ c ≠ '#' := by
    refine List.forall_mem_append.2 ⟨fun c hc => ?_, List.forall_mem_cons.2 ⟨by decide, ?_⟩⟩
    · obtain ⟨hplain, hnumber, -⟩ := isPathEscaped_eq_false_iff.1 (hpath c hc)
      exact ⟨hplain, hnumber⟩
    · intro c hc
      obtain ⟨hplain, hnumber, -⟩ := isQueryEscaped_eq_false_iff.1 (hq c hc)
      exact ⟨hplain, hnumber⟩
  have htrimmed : trimmed a.target = a.path ++ '?' :: q := by
    rw [trimmed_eq_toList, htarget]
    rw [htarget]
    exact fun c hc => (hplain c hc).1
  have hnumber : '#' ∉ a.path ++ '?' :: q := fun h => (hplain _ h).2 rfl
  have hmark : '?' ∉ a.path := fun h => (isPathEscaped_eq_false_iff.1 (hpath _ h)).2.2.1 rfl
  rw [queryIn, htrimmed, List.takeWhile_eq_self_iff.2 (Form.ne_of_not_mem hnumber),
    List.dropWhile_append_of_pos (Form.ne_of_not_mem hmark), List.dropWhile_cons_of_neg (by decide),
    List.drop_one, List.tail_cons]

/-- Pairs that are added to the query of an address come behind those that its text writes, and
nothing else is read from what is sent. -/
theorem decode_queryIn_target_addPairs {text : String} {a : Address} (h : parse? text = some a)
    (pairs : List (String × String)) :
    Form.decode (queryIn (a.addPairs pairs).target) = Form.decode (queryIn text) ++ pairs := by
  have hwritten := isWrittenBy_of_parse? h
  obtain ⟨q, hq, hplain, hdecode⟩ := exists_query_addPairs hwritten.query pairs
  rw [queryIn_target (a := a.addPairs pairs) hwritten.path hq hplain, hdecode, hwritten.pairs]

end Address

end PlayerHub
