import PlayerHub.Proofs.Perform
import PlayerHub.Proofs.Session.Registry
import PlayerHub.Proofs.Session.Token
import PlayerHub.Session.Basic

namespace PlayerHub

namespace SessionM

variable {α β : Type} {s s' : Sessions}

theorem perform_pure (a : α) : (pure a : SessionM α).perform s = (.ok a, s) := rfl

theorem perform_get : (get : SessionM Sessions).perform s = (.ok s, s) := rfl

theorem perform_lift (result : Except SessionError α) :
    (liftM result : SessionM α).perform s = (result, s) := by
  cases result with
  | ok a => rfl
  | error e => rfl

theorem perform_bind_of_ok {act : SessionM α} {a : α} (hact : act.perform s = (.ok a, s'))
    (f : α → SessionM β) : (act >>= f).perform s = (f a).perform s' :=
  Perform.bind_of_ok hact f

theorem perform_bind_of_error {act : SessionM α} {e : SessionError}
    (hact : act.perform s = (.error e, s')) (f : α → SessionM β) :
    (act >>= f).perform s = (.error e, s') :=
  Perform.bind_of_error hact f

end SessionM

/-- Whether an error says that a token is not accepted. -/
def SessionError.IsRejection : SessionError → Prop
  | .invalidToken _ => True
  | .expired => True
  | .revoked _ => True
  | .registryUnavailable _ => False
  | .signing _ => False

namespace Sessions

variable {s : Sessions}

/-- The claims of a refresh token that passes its checks at the time `now`. -/
def renewable? (s : Sessions) (now : Int64) (token : String) : Option Claims :=
  (s.approve now now token).toOption

/-- The sessions without the one that claims speak of. -/
def without (s : Sessions) (c : Claims) : Sessions :=
  { s with registry := s.registry.remove c.user c.session c.session }

/-- The sessions with one more. -/
def enroll (s : Sessions) (single : Bool) (o : OpenedSession) : Sessions :=
  { s with registry := s.registry.enroll single o.user (entryOf o) }

theorem isRejection_of_checkToken {key : String} {now : Int64} {token : String} {e : SessionError}
    (htoken : checkToken key now token = .error e) : e.IsRejection := by
  rw [checkToken] at htoken
  split at htoken
  · cases htoken
  · cases htoken
    trivial
  · cases htoken
    trivial

/-- A token is accepted if it is good by itself and its session is alive. -/
theorem accept_eq_ok_iff {key : String} {isAlive : UserId → Int64 → String → Bool}
    {checked : Int64} {token : String} {c : Claims} :
    accept key isAlive checked token = .ok c ↔
      Token.check key checked token = .ok c ∧ isAlive c.user c.expiry c.session = true := by
  rw [accept, checkToken]
  cases Token.check key checked token with
  | error fault => cases fault <;> simp [bind, Except.bind]
  | ok c' =>
    simp only [bind, Except.bind, Except.ok.injEq]
    constructor
    · intro haccept
      split at haccept
      · rename_i halive
        cases haccept
        exact ⟨rfl, halive⟩
      · cases haccept
    · rintro ⟨rfl, halive⟩
      exact if_pos halive

/-- A token that is not accepted is rejected for what it is or for its session, and for nothing
else. -/
theorem isRejection_of_accept {key : String} {isAlive : UserId → Int64 → String → Bool}
    {checked : Int64} {token : String} {e : SessionError}
    (herror : accept key isAlive checked token = .error e) : e.IsRejection := by
  rw [accept] at herror
  cases htoken : checkToken key checked token with
  | error e' =>
    rw [htoken] at herror
    cases herror
    exact isRejection_of_checkToken htoken
  | ok c =>
    rw [htoken] at herror
    simp only [bind, Except.bind] at herror
    split at herror
    · cases herror
    · cases herror
      trivial

theorem renewable?_eq_some_iff_approve {now : Int64} {token : String} {c : Claims} :
    s.renewable? now token = some c ↔ s.approve now now token = .ok c := by
  rw [renewable?]
  cases s.approve now now token with
  | error e =>
    constructor
    · intro hsome
      cases hsome
    · intro hok
      cases hok
  | ok c' =>
    constructor
    · intro hsome
      exact congrArg Except.ok (Option.some.inj hsome)
    · intro hok
      exact congrArg Except.toOption hok

theorem renewable?_eq_some_iff {now : Int64} {token : String} {c : Claims} :
    s.renewable? now token = some c ↔
      Token.check s.settings.refreshKey now token = .ok c ∧
        s.registry.isValidRefresh now c.user c.expiry c.session = true := by
  rw [renewable?_eq_some_iff_approve, approve, accept_eq_ok_iff]

theorem expiry?_of_renewable {now : Int64} {token : String} {c : Claims}
    (hrenew : s.renewable? now token = some c) :
    s.registry.expiry? .refresh c.user c.session = some c.expiry := by
  obtain ⟨-, hvalid⟩ := renewable?_eq_some_iff.1 hrenew
  obtain ⟨hid, -⟩ := (Registry.isValidRefresh_iff _).1 hvalid
  exact hid

theorem verify_eq_ok_iff {now : Int64} {token : String} {c : Claims} :
    s.verify now token = .ok c ↔
      Token.check s.settings.accessKey now token = .ok c ∧
        s.registry.isValidAccess now c.user c.expiry c.session = true :=
  accept_eq_ok_iff

theorem claims?_token_make (settings : SessionSettings) (now : Int64) (fresh : String)
    (user : UserId) (username : String) :
    Token.claims? (make settings now fresh user username).token =
      some ⟨fresh, user, username, now, now + settings.accessSeconds⟩ :=
  Token.claims?_sign settings.accessKey ⟨fresh, user, username, now, now + settings.accessSeconds⟩

theorem claims?_refreshToken_make (settings : SessionSettings) (now : Int64) (fresh : String)
    (user : UserId) (username : String) :
    Token.claims? (make settings now fresh user username).refreshToken =
      some ⟨fresh, user, username, now, now + settings.refreshSeconds⟩ :=
  Token.claims?_sign settings.refreshKey
    ⟨fresh, user, username, now, now + settings.refreshSeconds⟩

/-- The access token of a session is refused for its age first, and then if the session is over. -/
theorem verify_token_make {now issued : Int64} {fresh : String} {user : UserId}
    {username : String} {o : OpenedSession} (ho : o = make s.settings issued fresh user username)
    (haccess : 0 ≤ o.accessExpiry) :
    s.verify now o.token =
      if o.accessExpiry < now then .error .expired
      else if s.registry.expiry? .access o.user o.session = some o.accessExpiry then
        .ok ⟨o.session, o.user, username, o.issuedAt, o.accessExpiry⟩
      else .error (.revoked o.user) := by
  have htoken : o.token = Token.sign s.settings.accessKey
      ⟨o.session, o.user, username, o.issuedAt, o.accessExpiry⟩ := by
    subst ho
    rfl
  have hcheck := Token.check_sign_self s.settings.accessKey now
    ⟨o.session, o.user, username, o.issuedAt, o.accessExpiry⟩ haccess
  rw [verify, verifyAt, accept, htoken, checkToken, hcheck]
  by_cases hexpired : o.accessExpiry < now
  · rw [if_pos hexpired, if_pos hexpired]
    rfl
  · rw [if_neg hexpired, if_neg hexpired]
    have hvalid : s.registry.isValidAccess now o.user o.accessExpiry o.session = true ↔
        s.registry.expiry? .access o.user o.session = some o.accessExpiry := by
      rw [Registry.isValidAccess_iff]
      exact and_iff_left (Int64.not_lt.1 hexpired)
    by_cases hid : s.registry.expiry? .access o.user o.session = some o.accessExpiry
    · rw [if_pos hid]
      exact if_pos (hvalid.2 hid)
    · rw [if_neg hid]
      exact if_neg (fun h => hid (hvalid.1 h))

theorem renewable?_token_make {now issued : Int64} {fresh : String} {user : UserId}
    {username : String} {o : OpenedSession} (ho : o = make s.settings issued fresh user username)
    (hrefresh : 0 ≤ o.refreshExpiry) (htime : now ≤ o.refreshExpiry)
    (hid : s.registry.expiry? .refresh o.user o.session = some o.refreshExpiry) :
    s.renewable? now o.refreshToken =
      some ⟨o.session, o.user, username, o.issuedAt, o.refreshExpiry⟩ := by
  have htoken : o.refreshToken = Token.sign s.settings.refreshKey
      ⟨o.session, o.user, username, o.issuedAt, o.refreshExpiry⟩ := by
    subst ho
    rfl
  have hcheck := Token.check_sign_self s.settings.refreshKey now
    ⟨o.session, o.user, username, o.issuedAt, o.refreshExpiry⟩ hrefresh
  rw [if_neg (Int64.not_lt.2 htime)] at hcheck
  rw [htoken, renewable?_eq_some_iff]
  exact ⟨hcheck, (Registry.isValidRefresh_iff _).2 ⟨hid, htime⟩⟩

/-- A registry that refuses nothing takes every session until it is closed. -/
theorem perform_register (hgate : s.gate = {}) (single : Bool) (user : UserId)
    (e : SessionEntry) :
    (register single user e).perform s =
      if s.registry.closed then (.error Registry.closedError, s)
      else (.ok (), { s with registry := s.registry.enroll single user e }) := by
  have hopen : (if single then s.gate.replace else s.gate.add) = none := by
    rw [hgate]
    exact ite_self none
  simp only [SessionM.perform, register, hopen, Registry.add_or_replace_eq]
  split
  · rename_i err heq
    split at heq
    · rename_i hclosed
      cases heq
      rw [if_pos hclosed]
    · cases heq
  · rename_i registry heq
    split at heq
    · cases heq
    · rename_i hclosed
      cases heq
      rw [if_neg hclosed]

/-- Whatever a registry refuses, a session that is opened is the one the settings make. -/
theorem eq_make_of_issue {now : Int64} {fresh : String} {user : UserId} {username : String}
    {single : Bool} {o : OpenedSession} {s' : Sessions}
    (hissue : (issue now fresh user username single).perform s = (.ok o, s')) :
    o = make s.settings now fresh user username := by
  rw [issue, SessionM.perform_bind_of_ok SessionM.perform_get] at hissue
  cases hregister : (register single user
      (entryOf (make s.settings now fresh user username))).perform s with
  | mk result s'' =>
    cases result with
    | error e =>
      rw [SessionM.perform_bind_of_error hregister] at hissue
      cases hissue
    | ok registered =>
      rw [SessionM.perform_bind_of_ok hregister, SessionM.perform_pure] at hissue
      cases hissue
      rfl

/-- A session is opened unless the registry has been closed. -/
theorem perform_issue (hgate : s.gate = {}) (now : Int64) (fresh : String) (user : UserId)
    (username : String) (single : Bool) :
    (issue now fresh user username single).perform s =
      if s.registry.closed then (.error Registry.closedError, s)
      else (.ok (make s.settings now fresh user username),
        s.enroll single (make s.settings now fresh user username)) := by
  have hregister := perform_register hgate single user
    (entryOf (make s.settings now fresh user username))
  rw [issue, SessionM.perform_bind_of_ok SessionM.perform_get]
  split
  · rename_i hclosed
    rw [if_pos hclosed] at hregister
    exact SessionM.perform_bind_of_error hregister _
  · rename_i hclosed
    rw [if_neg hclosed] at hregister
    exact SessionM.perform_bind_of_ok hregister _

/-- Whoever finds a session gone that should be renewed is told that it is over. -/
theorem perform_retire (hgate : s.gate = {}) (c : Claims) :
    (retire c).perform s =
      (if s.registry.has c.user c.session c.session then .ok () else .error (.revoked c.user),
        s.without c) := by
  have hkept : s.gate.remove = false := by rw [hgate]
  have hdiscard : (discard c.user c.session).perform s =
      (.ok (s.registry.has c.user c.session c.session), s.without c) := by
    rw [SessionM.perform, discard, hkept, if_neg Bool.false_ne_true]
    rfl
  rw [retire, SessionM.perform_bind_of_ok hdiscard]
  cases s.registry.has c.user c.session c.session with
  | false => rfl
  | true => rfl

theorem perform_renew (now : Int64) (fresh : String) (c : Claims) :
    (renew now fresh c).perform s =
      (issue now fresh c.user c.username s.settings.single).perform s := by
  rw [renew, SessionM.perform_bind_of_ok SessionM.perform_get]

/-- A refresh token that passes its checks loses its session before the next one is opened. -/
theorem perform_refresh_of_renewable (hgate : s.gate = {}) {now : Int64} {token : String}
    {c : Claims} (hrenew : s.renewable? now token = some c) (fresh : String) :
    (refresh now fresh token).perform s =
      (issue now fresh c.user c.username s.settings.single).perform (s.without c) := by
  obtain ⟨-, hvalid⟩ := renewable?_eq_some_iff.1 hrenew
  have hretire := perform_retire hgate c
  rw [if_pos (Registry.has_of_isValidRefresh _ hvalid)] at hretire
  rw [refresh, SessionM.perform_bind_of_ok SessionM.perform_get, renewable?_eq_some_iff_approve.1 hrenew,
    SessionM.perform_bind_of_ok (SessionM.perform_lift (.ok c)),
    SessionM.perform_bind_of_ok hretire, perform_renew]
  rfl

theorem perform_refresh_of_approve_error {now : Int64} {token : String} {e : SessionError}
    (happrove : s.approve now now token = .error e) (fresh : String) :
    (refresh now fresh token).perform s = (.error e, s) := by
  rw [refresh, SessionM.perform_bind_of_ok SessionM.perform_get, happrove]
  exact SessionM.perform_bind_of_error (SessionM.perform_lift (.error e)) _

/-- A refresh token that does not pass its checks is rejected, and that is all. -/
theorem perform_refresh_rejected {now : Int64} {token : String}
    (hrenew : s.renewable? now token = none) (fresh : String) :
    ∃ e, (refresh now fresh token).perform s = (.error e, s) ∧ e.IsRejection := by
  cases happrove : s.approve now now token with
  | error e =>
    exact ⟨e, perform_refresh_of_approve_error happrove fresh, isRejection_of_accept happrove⟩
  | ok c =>
    rw [renewable?_eq_some_iff_approve.2 happrove] at hrenew
    cases hrenew

theorem perform_refresh_of_not_renewable {now : Int64} {token : String}
    (hrenew : s.renewable? now token = none) (fresh : String) :
    ∃ e, (refresh now fresh token).perform s = (.error e, s) := by
  obtain ⟨e, hperform, -⟩ := perform_refresh_rejected hrenew fresh
  exact ⟨e, hperform⟩

end Sessions

/-- The last second at which a token of a session is good. -/
def OpenedSession.expiry (o : OpenedSession) : TokenUse → Int64
  | .access => o.accessExpiry
  | .refresh => o.refreshExpiry

namespace Sessions

variable {s : Sessions}

@[simp] theorem closed_without (c : Claims) :
    (s.without c).registry.closed = s.registry.closed := by
  rw [without]
  exact s.registry.closed_remove c.user c.session c.session

theorem expiry?_without (c : Claims) (use : TokenUse) (user : UserId) (id : String) :
    (s.without c).registry.expiry? use user id =
      if user = c.user ∧ id = c.session then none else s.registry.expiry? use user id := by
  rw [without, Registry.expiry?_remove, TokenUse.of_self]

theorem expiry?_enroll (single : Bool) (o : OpenedSession) (use : TokenUse) (user : UserId)
    (id : String) :
    (s.enroll single o).registry.expiry? use user id =
      if user = o.user then
        if id = o.session then some (o.expiry use)
        else if single then none
        else s.registry.expiry? use o.user id
      else s.registry.expiry? use user id := by
  rw [enroll, Registry.expiry?_enroll]
  cases use with
  | access => rfl
  | refresh => rfl

end Sessions

end PlayerHub
