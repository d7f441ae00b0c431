import PlayerHub.Proofs.Account.Directory
import PlayerHub.Proofs.Session.Basic
import PlayerHub.Service.Basic

namespace PlayerHub

namespace ServerM

variable {α β : Type} {s s' : Server}

theorem perform_bind_of_ok {act : ServerM α} {a : α} (hact : act.perform s = (.ok a, s'))
    (f : α → ServerM β) : (act >>= f).perform s = (f a).perform s' :=
  Perform.bind_of_ok hact f

theorem perform_bind_of_error {act : ServerM α} {e : ServerError}
    (hact : act.perform s = (.error e, s')) (f : α → ServerM β) :
    (act >>= f).perform s = (.error e, s') :=
  Perform.bind_of_error hact f

theorem perform_get : (get : ServerM Server).perform s = (.ok s, s) := rfl

end ServerM

namespace Server

variable {s : Server} {p : Platform} {network : Network} {code : LoginCode} {draws : Draws}
  {now : Int64} {external : ExternalId}

theorem perform_accountOf_of_error {e : IdentityError}
    (haccount : s.directory.signIn external draws.username true draws.user = .error e) :
    (accountOf external draws).perform s = (.error (.identity e), s) := by
  rw [accountOf, ServerM.perform_bind_of_ok ServerM.perform_get, haccount]
  rfl

theorem perform_accountOf_of_ok {found : SignedIn} {directory : Directory}
    (haccount : s.directory.signIn external draws.username true draws.user =
      .ok (found, directory)) :
    (accountOf external draws).perform s = (.ok found, { s with directory }) := by
  rw [accountOf, ServerM.perform_bind_of_ok ServerM.perform_get, haccount]
  rfl

/-- A code that cannot be exchanged leaves the server as it was. -/
theorem perform_signIn_of_no_exchange {e : IdentityError}
    (hexchange : p.exchange (s.settings.social.platform p) network code = .error e) :
    (signIn p network code draws now).perform s = (.error (.identity e), s) := by
  rw [signIn, ServerM.perform_bind_of_ok ServerM.perform_get]
  dsimp only
  rw [hexchange]
  rfl

/-- A player for whom there is no account leaves the server as it was. -/
theorem perform_signIn_of_no_account {e : IdentityError}
    (hexchange : p.exchange (s.settings.social.platform p) network code = .ok external)
    (haccount : s.directory.signIn external draws.username true draws.user = .error e) :
    (signIn p network code draws now).perform s = (.error (.identity e), s) := by
  rw [signIn, ServerM.perform_bind_of_ok ServerM.perform_get]
  dsimp only
  rw [hexchange]
  exact ServerM.perform_bind_of_error (perform_accountOf_of_error haccount) _

/-- The account of a player is there to stay, also if no session can be opened. -/
theorem perform_signIn_of_account {found : SignedIn} {directory : Directory}
    (hexchange : p.exchange (s.settings.social.platform p) network code = .ok external)
    (haccount : s.directory.signIn external draws.username true draws.user =
      .ok (found, directory)) :
    (signIn p network code draws now).perform s =
      match (Sessions.issue now draws.session found.account.user found.account.username
        s.settings.session.single).perform s.sessions with
      | (.ok o, sessions) => (.ok (.ofSession o found.created), { s with directory, sessions })
      | (.error e, sessions) => (.error (.session e), { s with directory, sessions }) := by
  rw [signIn, ServerM.perform_bind_of_ok ServerM.perform_get]
  dsimp only
  rw [hexchange]
  refine (ServerM.perform_bind_of_ok (perform_accountOf_of_ok haccount) _).trans ?_
  cases hissue : (Sessions.issue now draws.session found.account.user found.account.username
      s.settings.session.single).perform s.sessions with
  | mk result sessions =>
    cases result with
    | ok o =>
      refine ServerM.perform_bind_of_ok ?_ _
      rw [ServerM.perform, ServerM.ofSession, hissue]
    | error e =>
      refine ServerM.perform_bind_of_error ?_ _
      rw [ServerM.perform, ServerM.ofSession, hissue]

theorem directory_signIn_of_account {found : SignedIn} {directory : Directory}
    (hexchange : p.exchange (s.settings.social.platform p) network code = .ok external)
    (haccount : s.directory.signIn external draws.username true draws.user =
      .ok (found, directory)) :
    ((signIn p network code draws now).perform s).2.directory = directory := by
  rw [perform_signIn_of_account hexchange haccount]
  split
  · rfl
  · rfl

/-- A sign-in changes nothing but the accounts and the sessions. -/
theorem signIn_keeps (s : Server) (p : Platform) (network : Network) (code : LoginCode)
    (draws : Draws) (now : Int64) : ∃ directory sessions,
    ((signIn p network code draws now).perform s).2 = { s with directory, sessions } := by
  cases hexchange : p.exchange (s.settings.social.platform p) network code with
  | error e =>
    rw [perform_signIn_of_no_exchange hexchange]
    exact ⟨s.directory, s.sessions, rfl⟩
  | ok external =>
    cases haccount : s.directory.signIn external draws.username true draws.user with
    | error e =>
      rw [perform_signIn_of_no_account hexchange haccount]
      exact ⟨s.directory, s.sessions, rfl⟩
    | ok result =>
      rw [perform_signIn_of_account hexchange haccount]
      split
      · exact ⟨_, _, rfl⟩
      · exact ⟨_, _, rfl⟩

theorem settings_signIn : ((signIn p network code draws now).perform s).2.settings =
    s.settings := by
  obtain ⟨directory, sessions, hkeeps⟩ := signIn_keeps s p network code draws now
  rw [hkeeps]

/-- A sign-in changes the accounts only by the sign-in of the external id that the platform gave
for the code. -/
theorem directory_signIn :
    ((signIn p network code draws now).perform s).2.directory = s.directory ∨
      ∃ external found, p.exchange (s.settings.social.platform p) network code = .ok external ∧
        s.directory.signIn external draws.username true draws.user =
          .ok (found, ((signIn p network code draws now).perform s).2.directory) := by
  cases hexchange : p.exchange (s.settings.social.platform p) network code with
  | error e =>
    rw [perform_signIn_of_no_exchange hexchange]
    exact .inl rfl
  | ok external =>
    cases haccount : s.directory.signIn external draws.username true draws.user with
    | error e =>
      rw [perform_signIn_of_no_account hexchange haccount]
      exact .inl rfl
    | ok result =>
      obtain ⟨found, directory⟩ := result
      refine .inr ⟨external, found, rfl, ?_⟩
      rw [directory_signIn_of_account hexchange haccount, haccount]

/-- A player who has signed in has a session of the account of the external id that the platform
gave for the code. -/
theorem signIn_eq_ok {w : Welcome}
    (hsignIn : ((signIn p network code draws now).perform s).1 = .ok w) :
    ∃ external found, p.exchange (s.settings.social.platform p) network code = .ok external ∧
      s.directory.signIn external draws.username true draws.user =
        .ok (found, ((signIn p network code draws now).perform s).2.directory) ∧
      w = .ofSession (Sessions.make s.sessions.settings now draws.session found.account.user
        found.account.username) found.created := by
  cases hexchange : p.exchange (s.settings.social.platform p) network code with
  | error e =>
    rw [perform_signIn_of_no_exchange hexchange] at hsignIn
    cases hsignIn
  | ok external =>
    cases haccount : s.directory.signIn external draws.username true draws.user with
    | error e =>
      rw [perform_signIn_of_no_account hexchange haccount] at hsignIn
      cases hsignIn
    | ok result =>
      obtain ⟨found, directory⟩ := result
      rw [directory_signIn_of_account hexchange haccount]
      refine ⟨external, found, rfl, haccount, ?_⟩
      rw [perform_signIn_of_account hexchange haccount] at hsignIn
      split at hsignIn
      · rename_i o sessions hissue
        cases hsignIn
        rw [Sessions.eq_make_of_issue hissue]
      · cases hsignIn

end Server

end PlayerHub
