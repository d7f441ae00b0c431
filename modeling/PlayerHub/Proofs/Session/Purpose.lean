import PlayerHub.Proofs.Session.Run

namespace PlayerHub

/-- The key that signs tokens of one kind. -/
def SessionSettings.key (settings : SessionSettings) : TokenUse → String
  | .access => settings.accessKey
  | .refresh => settings.refreshKey

namespace Sessions

theorem checkToken_sign (key : String) (now : Int64) (c : Claims) :
    checkToken key now (Token.sign key c) =
      if c.expiry < 0 then .error (.invalidToken Token.Fault.noExpiry.text)
      else if c.expiry < now then .error .expired
      else .ok c := by
  rw [checkToken, Token.check_sign, if_neg (not_not_intro rfl)]
  by_cases hnegative : c.expiry < 0
  · rw [if_pos hnegative, if_pos hnegative]
  · rw [if_neg hnegative, if_neg hnegative]
    by_cases hexpired : c.expiry < now
    · rw [if_pos hexpired, if_pos hexpired]
    · rw [if_neg hexpired, if_neg hexpired]

/-- Whatever the keys and the claims are, a token that is checked with the key that has signed it
gives back its claims up to its expiry and has expired after that, unless its expiry is negative:
then it is no token. -/
theorem signed_token_is_good_until_expiry (settings : SessionSettings) (use : TokenUse) (c : Claims)
    {now : Int64} (hnow : 0 ≤ now) :
    let answer := checkToken (settings.key use) now (Token.sign (settings.key use) c)
    (answer = .ok c ↔ now ≤ c.expiry) ∧
      (answer = .error .expired ↔ 0 ≤ c.expiry ∧ c.expiry < now) ∧
      ((∃ reason, answer = .error (.invalidToken reason)) ↔ c.expiry < 0) := by
  intro answer
  have hanswer : answer = _ := checkToken_sign (settings.key use) now c
  rw [hanswer]
  by_cases hnegative : c.expiry < 0
  · have hpast : ¬ now ≤ c.expiry := fun hle =>
      Int64.not_lt.2 (Int64.le_trans hnow hle) hnegative
    have hnone : ¬ 0 ≤ c.expiry := Int64.not_le.2 hnegative
    simp [hnegative, hpast, hnone]
  · have hle : 0 ≤ c.expiry := Int64.not_lt.1 hnegative
    by_cases hexpired : c.expiry < now
    · have hpast : ¬ now ≤ c.expiry := Int64.not_le.2 hexpired
      simp [hnegative, hle, hexpired, hpast]
    · have hgood : now ≤ c.expiry := Int64.not_lt.1 hexpired
      simp [hnegative, hexpired, hgood]

/-- A name that needs escapes comes back in the last second of the token, with an empty key. -/
theorem signed_token_is_good_in_last_second :
    let ada : UserId := ⟨List.replicate 32 1, List.length_replicate⟩
    let c : Claims := ⟨"a.b", ada, "\"é\n\\", -1, 100⟩
    checkToken "" 100 (Token.sign "" c) = .ok c := by
  intro ada c
  exact (signed_token_is_good_until_expiry { refreshKey := "" } .refresh c (by decide)).1.2
    (by decide)

variable {s : Sessions} {past : List OpenedSession} {steps : List SessionStep} {o : OpenedSession}

/-- A token is not accepted in a place for which its session has another expiry. -/
theorem Follows.not_registered (hfollows : s.Follows past steps)
    (hmem : o ∈ past ++ s.opened steps) {use : TokenUse} {c : Claims}
    (hsession : c.session = o.session) (hexpiry : o.expiry use ≠ c.expiry) :
    s.registry.expiry? use c.user c.session ≠ some c.expiry := by
  intro hid
  rw [hsession] at hid
  exact hexpiry (hfollows.of_registered hmem hid).2.2

/-- Whatever the two keys are, at every moment of a run and at any time: the refresh token of a
session is refused where an access token is due, and its access token where a refresh token is due,
and nothing is changed by that. It is enough that the two kinds of tokens are good for different
times. -/
theorem refused_in_other_place {settings : SessionSettings} {before after : List SessionStep}
    {o : OpenedSession} (hseconds : settings.accessSeconds ≠ settings.refreshSeconds)
    (hids : (((start settings).opened (before ++ after)).map (·.session)).Nodup)
    (hmem : o ∈ (start settings).opened (before ++ after)) (now : Int64) :
    let s := (start settings).run before
    (∃ e, (⟨now, .verify o.refreshToken⟩ : SessionStep).perform s = (.failed e, s)) ∧
      ∀ fresh, ∃ e, (⟨now, .refresh fresh o.token⟩ : SessionStep).perform s = (.failed e, s) := by
  intro s
  have hfollows : s.Follows ([] ++ (start settings).opened before) after := (follows_start hids).run
  obtain ⟨issued, session, user, username, hmake⟩ := eq_make_of_mem_opened rfl hmem
  obtain rfl : o = make settings issued session user username := hmake
  rw [opened_append] at hmem
  have hexpiries : issued + settings.accessSeconds ≠ issued + settings.refreshSeconds :=
    fun hsame => hseconds ((Int64.add_right_inj issued).1 hsame)
  constructor
  · -- The signature may be right, so it is the registry that refuses.
    cases hverify : s.verify now (make settings issued session user username).refreshToken with
    | error e =>
      exact ⟨e, congrArg (fun answer => (SessionAnswer.ofResult .verified answer, s)) hverify⟩
    | ok c =>
      obtain ⟨hcheck, hvalid⟩ := verify_eq_ok_iff.1 hverify
      have hclaims := Token.claims?_of_check hcheck
      rw [claims?_refreshToken_make] at hclaims
      cases hclaims
      have hid := ((Registry.isValidAccess_iff _).1 hvalid).1
      exact absurd hid (hfollows.not_registered hmem rfl hexpiries)
  · intro fresh
    cases hrenew : s.renewable? now (make settings issued session user username).token with
    | none =>
      obtain ⟨e, hperform⟩ := perform_refresh_of_not_renewable hrenew fresh
      exact ⟨e, congrArg (Prod.map (SessionAnswer.ofResult .opened) id) hperform⟩
    | some c =>
      obtain ⟨hcheck, -⟩ := renewable?_eq_some_iff.1 hrenew
      have hclaims := Token.claims?_of_check hcheck
      rw [claims?_token_make] at hclaims
      cases hclaims
      have hid := expiry?_of_renewable hrenew
      exact absurd hid (hfollows.not_registered hmem rfl hexpiries.symm)

/-- With one key for both kinds, the tokens of a session that is alive are refused in each other's
place. -/
theorem refused_in_other_place_under_one_key :
    let ada : UserId := ⟨List.replicate 32 1, List.length_replicate⟩
    let settings : SessionSettings := { accessKey := "key", refreshKey := "key" }
    let o := make settings 100 "a" ada "ada"
    let s := (start settings).run [⟨100, .issue "a" ada "ada" true⟩]
    checkToken settings.accessKey 200 o.refreshToken = .ok ⟨"a", ada, "ada", 100, 2592100⟩ ∧
      (∃ e, (⟨200, .verify o.refreshToken⟩ : SessionStep).perform s = (.failed e, s)) ∧
        ∃ e, (⟨200, .refresh "b" o.token⟩ : SessionStep).perform s = (.failed e, s) := by
  intro ada settings o s
  let first : SessionStep := ⟨100, .issue "a" ada "ada" true⟩
  have hfirst : first.opened? (start settings) = some o := rfl
  have hopened : (start settings).opened ([first] ++ []) = [o] := by
    simp only [List.append_nil, opened, hfirst, Option.toList_some]
  have hids : (((start settings).opened ([first] ++ [])).map (·.session)).Nodup := by
    rw [hopened]
    exact List.nodup_singleton _
  have hmem : o ∈ (start settings).opened ([first] ++ []) := by
    rw [hopened]
    exact List.mem_singleton_self o
  have hsigned : checkToken settings.accessKey 200 o.refreshToken = _ :=
    checkToken_sign "key" 200 ⟨"a", ada, "ada", 100, 100 + 2592000⟩
  rw [if_neg (by decide), if_neg (by decide)] at hsigned
  obtain ⟨hverify, hrefresh⟩ := refused_in_other_place (by decide) hids hmem 200
  exact ⟨hsigned, hverify, hrefresh "b"⟩

end Sessions

end PlayerHub
