import PlayerHub.Proofs.Digest.Hmac
import PlayerHub.Proofs.Session.Purpose

namespace PlayerHub

/-- The other kind of token. -/
def TokenUse.other : TokenUse → TokenUse
  | .access => .refresh
  | .refresh => .access

namespace Token

theorem signature_eq_iff (key key' : String) (message : List Char) :
    signature key message = signature key' message ↔
      Hmac.mac (Utf8.ofString key) (Utf8.encode message) =
        Hmac.mac (Utf8.ofString key') (Utf8.encode message) := by
  constructor
  · intro h
    have hbytes := congrArg Base64Url.decode? h
    rw [signature, signature, Base64Url.decode?_encode, Base64Url.decode?_encode] at hbytes
    exact Option.some.inj hbytes
  · intro h
    rw [signature, signature, h]

/-- Whether two keys sign the claims of a token alike: they agree in what counts of a key, or there
is a collision at the last digest. -/
def SignAlike (key key' : String) (c : Claims) : Prop :=
  let text := Utf8.encode (message c)
  Hmac.significant (Utf8.ofString key) = Hmac.significant (Utf8.ofString key') ∨
    Sha256.Collide (Hmac.outer (Utf8.ofString key) text) (Hmac.outer (Utf8.ofString key') text)

theorem signAlike_iff (key key' : String) (c : Claims) :
    SignAlike key key' c ↔ signature key (message c) = signature key' (message c) :=
  Hmac.mac_eq_iff.symm.trans (signature_eq_iff key key' (message c)).symm

end Token

namespace Sessions

theorem checkToken_sign_of_signAlike {key key' : String} {c : Claims}
    (halike : Token.SignAlike key key' c) (now : Int64) :
    checkToken key' now (Token.sign key c) = checkToken key now (Token.sign key c) := by
  rw [checkToken, checkToken, Token.check_sign, Token.check_sign,
    (Token.signAlike_iff key key' c).1 halike]

theorem checkToken_sign_of_not_signAlike {key key' : String} {c : Claims}
    (halike : ¬ Token.SignAlike key key' c) (now : Int64) :
    checkToken key' now (Token.sign key c) =
      .error (.invalidToken Token.Fault.signature.text) := by
  rw [checkToken, Token.check_sign, if_pos (mt (Token.signAlike_iff key key' c).2 halike)]

/-- A token of one kind is no token of the other kind exactly if the two keys do not sign its claims
alike, or its expiry is negative, with which it is no token at all. If they do sign them alike, it
is as good in the place of the other kind as in its own. -/
theorem no_token_of_other_kind_iff (settings : SessionSettings) (use : TokenUse) (c : Claims)
    (now : Int64) :
    let token := Token.sign (settings.key use) c
    let alike := Token.SignAlike (settings.key use) (settings.key use.other) c
    ((∃ reason, checkToken (settings.key use.other) now token = .error (.invalidToken reason)) ↔
        ¬ alike ∨ c.expiry < 0) ∧
      (alike → checkToken (settings.key use.other) now token =
        checkToken (settings.key use) now token) := by
  intro token alike
  refine ⟨?_, fun halike => checkToken_sign_of_signAlike halike now⟩
  by_cases halike : alike
  · rw [checkToken_sign_of_signAlike halike, checkToken_sign]
    by_cases hnegative : c.expiry < 0
    · simp [hnegative]
    · by_cases hexpired : c.expiry < now
      · simp [hnegative, hexpired, halike]
      · simp [hnegative, hexpired, halike]
  · rw [checkToken_sign_of_not_signAlike halike]
    simp [halike]

/-- A key and the same key with a zero character behind it sign alike: a refresh token is accepted
where an access token is due. -/
theorem refresh_token_is_taken_for_access_token :
    let settings : SessionSettings := { accessKey := "key", refreshKey := "key\x00" }
    let ada : UserId := ⟨List.replicate 32 1, List.length_replicate⟩
    let c : Claims := ⟨"a", ada, "ada", 100, 300⟩
    settings.accessKey ≠ settings.refreshKey ∧
      checkToken settings.accessKey 200 (Token.sign settings.refreshKey c) = .ok c := by
  intro settings ada c
  have halike : Token.SignAlike settings.refreshKey settings.accessKey c := .inl (by decide)
  refine ⟨by decide, ?_⟩
  rw [checkToken_sign_of_signAlike halike, checkToken_sign]
  decide

end Sessions

end PlayerHub
