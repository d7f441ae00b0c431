import PlayerHub.Proofs.Session.Run

namespace PlayerHub

namespace Sessions

variable {s : Sessions}

theorem without_ne_self {now : Int64} {token : String} {c : Claims}
    (hrenew : s.renewable? now token = some c) : s.without c ≠ s := by
  intro hsame
  have hid := expiry?_of_renewable hrenew
  rw [← hsame, expiry?_without, if_pos ⟨rfl, rfl⟩] at hid
  cases hid

/-- Without a session the tokens of all other sessions are verified as before. -/
theorem verify_without_iff {c c' : Claims} {now : Int64} {token : String}
    (hverify : s.verify now token = .ok c') :
    (s.without c).verify now token = .ok c' ↔ ¬ (c.user = c'.user ∧ c.session = c'.session) := by
  rw [verify_eq_ok_iff, Registry.isValidAccess_iff] at *
  obtain ⟨hcheck, hid, htime⟩ := hverify
  rw [expiry?_without]
  constructor
  · rintro ⟨-, hleft, -⟩ ⟨huser, hsession⟩
    rw [if_pos ⟨huser.symm, hsession.symm⟩] at hleft
    cases hleft
  · intro hother
    refine ⟨hcheck, ?_, htime⟩
    rw [if_neg (fun h => hother ⟨h.1.symm, h.2.symm⟩)]
    exact hid

/-- What a refresh that fails leaves behind. -/
theorem perform_refresh_of_error (hgate : s.gate = {}) {now : Int64} {fresh token : String}
    {e : SessionError} (herror : ((refresh now fresh token).perform s).1 = .error e) :
    (s.renewable? now token = none ∧ ((refresh now fresh token).perform s).2 = s) ∨
      ∃ c, s.renewable? now token = some c ∧ s.registry.closed = true ∧
        ((refresh now fresh token).perform s).2 = s.without c := by
  cases hrenew : s.renewable? now token with
  | none =>
    obtain ⟨e', hperform⟩ := perform_refresh_of_not_renewable hrenew fresh
    rw [hperform]
    exact .inl ⟨rfl, rfl⟩
  | some c =>
    rw [perform_refresh_of_renewable hgate hrenew, perform_issue (s := s.without c) hgate,
      closed_without] at herror ⊢
    split at herror
    · rename_i hclosed
      rw [if_pos hclosed]
      exact .inr ⟨c, rfl, hclosed, rfl⟩
    · cases herror

/-- A refresh that fails changes nothing exactly if it is not made of a closed registry with a
token that passes all checks. If it is, the session of that token is over, and no other one. -/
theorem failed_refresh_keeps_iff {settings : SessionSettings} {steps : List SessionStep}
    {now : Int64} {fresh token : String} {e : SessionError}
    (herror : ((refresh now fresh token).perform ((start settings).run steps)).1 = .error e) :
    let s := (start settings).run steps
    let s' := ((refresh now fresh token).perform s).2
    (s' = s ↔ ¬ (s.registry.closed = true ∧ (s.renewable? now token).isSome = true)) ∧
      ∀ now' token' c', s.verify now' token' = .ok c' →
        (s'.verify now' token' = .ok c' ↔ ¬ (s.registry.closed = true ∧
          ∃ c, s.renewable? now token = some c ∧ c.user = c'.user ∧ c.session = c'.session)) := by
  intro s s'
  have hgate : s.gate = {} := (kept_run rfl).2
  obtain ⟨hrenew, hkept⟩ | ⟨c, hrenew, hclosed, hleft⟩ := perform_refresh_of_error hgate herror
  · have hsame : s' = s := hkept
    rw [hsame, hrenew]
    refine ⟨iff_of_true rfl (fun h => Bool.false_ne_true h.2), ?_⟩
    intro now' token' c' hverify
    refine iff_of_true hverify ?_
    rintro ⟨-, c, hc, -⟩
    cases hc
  · have hsame : s' = s.without c := hleft
    rw [hsame, hrenew]
    refine ⟨iff_of_false (without_ne_self hrenew) (fun h => h ⟨hclosed, rfl⟩), ?_⟩
    intro now' token' c' hverify
    rw [verify_without_iff hverify]
    refine not_congr ⟨fun h => ⟨hclosed, c, rfl, h⟩, ?_⟩
    rintro ⟨-, c₀, hc, hown⟩
    cases hc
    exact hown

/-- A text that is no token changes nothing, and so an open session is verified after it. -/
theorem garbage_refresh_keeps :
    let ada : UserId := ⟨List.replicate 32 1, List.length_replicate⟩
    let o := make {} 100 "a" ada "ada"
    let s := (start {}).run [⟨100, .issue "a" ada "ada" true⟩]
    let s' := ((refresh 110 "b" "").perform s).2
    s' = s ∧ s'.verify 110 o.token = .ok ⟨"a", ada, "ada", 100, 3700⟩ := by
  intro ada o s s'
  have hverify : s.verify 110 o.token = .ok ⟨"a", ada, "ada", 100, 3700⟩ := by
    have hmade : s.verify 110 o.token = _ := verify_token_make rfl (by decide)
    rw [hmade, if_neg (by decide), if_pos (by decide)]
    rfl
  have herror : ((refresh 110 "b" "").perform s).1 = .error (.invalidToken "InvalidToken") := rfl
  obtain ⟨hsame, hkept⟩ := failed_refresh_keeps_iff herror
  refine ⟨hsame.2 ?_, (hkept 110 o.token _ hverify).2 ?_⟩
  · rintro ⟨hclosed, -⟩
    cases hclosed
  · rintro ⟨hclosed, -⟩
    cases hclosed

/-- A closed registry gives up a live session for a renewal that fails. -/
theorem closed_refresh_loses_session :
    let ada : UserId := ⟨List.replicate 32 1, List.length_replicate⟩
    let o := make {} 100 "a" ada "ada"
    let s := (start {}).run [⟨100, .issue "a" ada "ada" true⟩, ⟨110, .close⟩]
    let s' := ((refresh 120 "b" o.refreshToken).perform s).2
    ((refresh 120 "b" o.refreshToken).perform s).1 = .error Registry.closedError ∧ s' ≠ s ∧
      s.verify 120 o.token = .ok ⟨"a", ada, "ada", 100, 3700⟩ ∧
      s'.verify 120 o.token = .error (.revoked ada) := by
  intro ada o s s'
  have hrenew : s.renewable? 120 o.refreshToken = some ⟨"a", ada, "ada", 100, 2592100⟩ :=
    renewable?_token_make rfl (by decide) (by decide) (by decide)
  have hperform : (refresh 120 "b" o.refreshToken).perform s =
      (.error Registry.closedError, s.without ⟨"a", ada, "ada", 100, 2592100⟩) := by
    rw [perform_refresh_of_renewable rfl hrenew, perform_issue (s := s.without _) rfl]
    rfl
  have hleft : s' = s.without ⟨"a", ada, "ada", 100, 2592100⟩ := congrArg Prod.snd hperform
  have hverify : ∀ t : Sessions, t.settings = {} → t.verify 120 o.token =
      if t.registry.expiry? .access ada "a" = some 3700 then .ok ⟨"a", ada, "ada", 100, 3700⟩
      else .error (.revoked ada) := by
    intro t ht
    have hmade : t.verify 120 o.token = _ := verify_token_make (by rw [ht]) (by decide)
    exact hmade.trans (if_neg (by decide))
  refine ⟨congrArg Prod.fst hperform, ?_, ?_, ?_⟩
  · rw [hleft]
    exact without_ne_self hrenew
  · rw [hverify s rfl, if_pos (by decide)]
  · rw [hleft, hverify _ rfl, if_neg (by decide)]

end Sessions

end PlayerHub
