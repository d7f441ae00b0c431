import PlayerHub.Proofs.Json.RoundTrip
import PlayerHub.Proofs.Session.Claims
import PlayerHub.Proofs.Text.Base64Url

namespace PlayerHub.Token

open Json (Value)

theorem splitLast_eq_none {s : List Char} (h : '.' ∉ s) : splitLast s = none := by
  induction s with
  | nil => rfl
  | cons c s ih =>
    rw [List.mem_cons, not_or] at h
    rw [splitLast, ih h.2]
    exact if_neg (Ne.symm h.1)

theorem splitLast_append {before after : List Char} (h : '.' ∉ after) :
    splitLast (before ++ '.' :: after) = some (before, after) := by
  induction before with
  | nil =>
    rw [List.nil_append, splitLast, splitLast_eq_none h]
    exact if_pos rfl
  | cons c before ih => rw [List.cons_append, splitLast, ih]

/-- The parts of a signed token are those it was put together from. -/
theorem parts?_sign (key : String) (c : Claims) :
    parts? (sign key c).toList =
      some (message c, encodePart header, encodePart c.toJson.printChars,
        signature key (message c)) := by
  have hsign : splitLast (sign key c).toList = some (message c, signature key (message c)) := by
    rw [sign, String.toList_ofList]
    exact splitLast_append (Base64Url.dot_not_mem_encode _)
  have hmessage : splitLast (message c) =
      some (encodePart header, encodePart c.toJson.printChars) :=
    splitLast_append (Base64Url.dot_not_mem_encode _)
  simp only [parts?, hsign, hmessage, Option.bind_eq_bind, Option.bind_some, Option.pure_def]

theorem ofBytes?_header :
    (Value.ofBytes? (Utf8.encode header)).bind headerAlgorithm? = some "HS256" := by
  have hprint : header =
      (Value.ofMembers [("typ", .str "JWT"), ("alg", .str "HS256")]).printChars := by decide
  rw [hprint, Value.ofBytes?_encode_printChars]
  decide

theorem checkPayload_encodePart (now : Int64) (c : Claims) :
    checkPayload now (encodePart c.toJson.printChars) =
      if c.expiry < 0 then .error .noExpiry
      else if c.expiry < now then .error .expired
      else .ok c := by
  rw [checkPayload, encodePart, Base64Url.decode?_encode]
  simp only [Value.ofBytes?_encode_printChars, Option.bind_some, Claims.ofJson?_toJson,
    Claims.registered?_toJson, Option.bind_eq_bind, Option.pure_def]
  by_cases hexpiry : c.expiry < 0
  · have hnot : ¬ 0 ≤ c.expiry := Int64.not_le.2 hexpiry
    simp only [hexpiry, hnot, decide_false, Bool.not_false, if_true]
  · have hle : 0 ≤ c.expiry := Int64.not_lt.1 hexpiry
    simp only [hexpiry, hle, decide_true, Bool.not_true, Bool.false_eq_true, if_false]

/-- What a check with any key makes of a signed token. -/
theorem check_sign (key key' : String) (now : Int64) (c : Claims) :
    check key' now (sign key c) =
      if signature key (message c) ≠ signature key' (message c) then .error .signature
      else if c.expiry < 0 then .error .noExpiry
      else if c.expiry < now then .error .expired
      else .ok c := by
  have hheader : Base64Url.decode? (encodePart header) = some (Utf8.encode header) :=
    Base64Url.decode?_encode _
  simp only [check, parts?_sign, hheader, ofBytes?_header, checkPayload_encodePart,
    ne_eq, not_true_eq_false, if_false]

theorem check_sign_self (key : String) (now : Int64) (c : Claims) (hexpiry : 0 ≤ c.expiry) :
    check key now (sign key c) = if c.expiry < now then .error .expired else .ok c := by
  rw [check_sign, if_neg (not_not_intro rfl), if_neg (Int64.not_lt.2 hexpiry)]

/-- The claims in the payload of a text, whoever may have signed it. -/
def claims? (token : String) : Option Claims := do
  let (_, _, payload, _) ← parts? token.toList
  let bytes ← Base64Url.decode? payload
  (Value.ofBytes? bytes).bind Claims.ofJson?

theorem claims?_sign (key : String) (c : Claims) : claims? (sign key c) = some c := by
  simp only [claims?, parts?_sign, encodePart, Base64Url.decode?_encode,
    Value.ofBytes?_encode_printChars, Option.bind_eq_bind, Option.bind_some,
    Claims.ofJson?_toJson]

/-- Whether a text is signed with a key: it ends in a dot and the signature of all that comes before
that. A signature has no dot in it, so the dot is the last one. -/
def IsSigned (key token : String) : Prop :=
  ∃ message, token.toList = message ++ '.' :: signature key message

theorem eq_of_splitLast {s before after : List Char} (h : splitLast s = some (before, after)) :
    s = before ++ '.' :: after := by
  induction s generalizing before with
  | nil => cases h
  | cons c s ih =>
    rw [splitLast] at h
    cases hsplit : splitLast s with
    | some parts =>
      rw [hsplit] at h
      cases h
      rw [ih hsplit, List.cons_append]
    | none =>
      rw [hsplit] at h
      by_cases hdot : c = '.'
      · rw [if_pos hdot] at h
        cases h
        rw [hdot, List.nil_append]
      · rw [if_neg hdot] at h
        cases h

theorem eq_of_parts? {s message header payload given : List Char}
    (h : parts? s = some (message, header, payload, given)) : s = message ++ '.' :: given := by
  simp only [parts?, Option.bind_eq_bind, Option.pure_def, Option.bind_eq_some_iff,
    Option.some.injEq] at h
  obtain ⟨⟨message', given'⟩, hsplit, ⟨header', payload'⟩, -, hparts⟩ := h
  cases hparts
  exact eq_of_splitLast hsplit

/-- A payload that is accepted has claims that have not expired. -/
theorem checkPayload_eq_ok {now : Int64} {payload : List Char} {c : Claims}
    (h : checkPayload now payload = .ok c) :
    (∃ bytes, Base64Url.decode? payload = some bytes ∧
      (Value.ofBytes? bytes).bind Claims.ofJson? = some c) ∧ now ≤ c.expiry := by
  unfold checkPayload at h
  split at h
  · cases h
  rename_i bytes hbytes
  split at h
  · cases h
  rename_i c' hasExpiry hasAudience hread
  split at h
  · cases h
  split at h
  · cases h
  rename_i htime
  split at h
  · cases h
  cases h
  simp only [Option.bind_eq_bind, Option.bind_eq_some_iff, Option.pure_def, Option.some.injEq,
    Prod.mk.injEq] at hread
  obtain ⟨v, hv, c', hc', -, -, rfl, -⟩ := hread
  exact ⟨⟨bytes, hbytes, by rw [hv, Option.bind_some, hc']⟩, Int64.not_lt.1 htime⟩

/-- A token that is accepted has the right signature in its place, and a payload that is
accepted. -/
theorem check_eq_ok {key : String} {now : Int64} {token : String} {c : Claims}
    (h : check key now token = .ok c) :
    ∃ message header payload, parts? token.toList =
      some (message, header, payload, signature key message) ∧ checkPayload now payload = .ok c := by
  unfold check at h
  split at h
  · cases h
  rename_i message header payload given hparts
  split at h
  · cases h
  split at h
  · cases h
  split at h
  · cases h
  split at h
  · cases h
  rename_i hgiven
  rw [ne_eq, not_not] at hgiven
  exact ⟨message, header, payload, hgiven ▸ hparts, h⟩

theorem claims?_of_check {key : String} {now : Int64} {token : String} {c : Claims}
    (h : check key now token = .ok c) : claims? token = some c := by
  obtain ⟨message, header, payload, hparts, hpayload⟩ := check_eq_ok h
  obtain ⟨⟨bytes, hbytes, hclaims⟩, -⟩ := checkPayload_eq_ok hpayload
  simp only [claims?, hparts, hbytes, hclaims, Option.bind_eq_bind, Option.bind_some]

theorem isSigned_of_check {key : String} {now : Int64} {token : String} {c : Claims}
    (h : check key now token = .ok c) : IsSigned key token := by
  obtain ⟨message, header, payload, hparts, -⟩ := check_eq_ok h
  exact ⟨message, eq_of_parts? hparts⟩

theorem le_expiry_of_check {key : String} {now : Int64} {token : String} {c : Claims}
    (h : check key now token = .ok c) : now ≤ c.expiry := by
  obtain ⟨message, header, payload, -, hpayload⟩ := check_eq_ok h
  exact (checkPayload_eq_ok hpayload).2

end PlayerHub.Token
