import PlayerHub.Proofs.Service.Arrival
import PlayerHub.Proofs.Session.Run

namespace PlayerHub

/-- Something that a server is asked for, or that happens to it. -/
inductive ServerCall where
  | signIn (a : Arrival)
  | refresh (fresh : String) (now : Int64) (token : String)
  | verify (now : Int64) (token : String)
  | logout (p : Player)
  | ban (users : List UserId)
  | sweep (time : Int64)
  | second (now : Int64)
  | shutdown

/-- The answer to a call. -/
inductive ServerAnswer where
  | welcomed (result : Except ServerError Welcome)
  | verified (result : Except ServerError Player)
  | swept (users : Nat)
  | done

namespace ServerCall

/-- The answer to a call, and the server after it. -/
def perform (c : ServerCall) (s : Server) : ServerAnswer × Server :=
  match c with
  | signIn a => (a.perform s).map .welcomed id
  | refresh fresh now token => ((Server.refresh fresh now token).perform s).map .welcomed id
  | verify now token => (.verified (s.verify now token), s)
  | logout p => (.done, s.logout p)
  | ban users => (.done, s.withRegistry (s.sessions.registry.ban users))
  | sweep time =>
    (.swept (s.sessions.registry.sweptUsers time), s.withRegistry (s.sessions.registry.sweep time))
  | second now => (.done, s.second now)
  | shutdown => (.done, s.shutdown)

/-- The answer to a call. -/
def answer (c : ServerCall) (s : Server) : ServerAnswer := (c.perform s).1

/-- The server after a call. -/
def next (c : ServerCall) (s : Server) : Server := (c.perform s).2

/-- What a player gets who is signed in or whose tokens are renewed by a call. -/
def welcome? (c : ServerCall) (s : Server) : Option Welcome :=
  match c.answer s with
  | .welcomed (.ok w) => some w
  | _ => none

end ServerCall

namespace SessionStep

open Sessions

variable {s : Sessions} {now : Int64}

private theorem opened?_ofResult {st : SessionStep} {result : Except SessionError OpenedSession}
    (hanswer : st.answer s = .ofResult .opened result) : st.opened? s = result.toOption := by
  rw [opened?, hanswer]
  cases result <;> rfl

theorem opened?_issue_eq (fresh : String) (user : UserId) (username : String) (single : Bool) :
    (⟨now, .issue fresh user username single⟩ : SessionStep).opened? s =
      ((issue now fresh user username single).perform s).1.toOption := opened?_ofResult rfl

theorem opened?_refresh_eq (fresh token : String) :
    (⟨now, .refresh fresh token⟩ : SessionStep).opened? s =
      ((refresh now fresh token).perform s).1.toOption := opened?_ofResult rfl

theorem next_issue_eq (fresh : String) (user : UserId) (username : String) (single : Bool) :
    (⟨now, .issue fresh user username single⟩ : SessionStep).next s =
      ((issue now fresh user username single).perform s).2 := rfl

theorem next_refresh_eq (fresh token : String) :
    (⟨now, .refresh fresh token⟩ : SessionStep).next s =
      ((refresh now fresh token).perform s).2 := rfl

end SessionStep

namespace Server

variable {s : Server}

/-- What a call may do to the sessions, and whom it welcomes. -/
inductive SessionEffect (s : Server) : Sessions → Option Welcome → Prop
  | none : SessionEffect s s.sessions none
  | step (st : SessionStep) (created : Bool)
      (hsingle : ∀ fresh user username single, st.call = .issue fresh user username single →
        single = s.settings.session.single) :
      SessionEffect s (st.next s.sessions)
        ((st.opened? s.sessions).map (Welcome.ofSession · created))

private theorem SessionEffect.of_quiet (st : SessionStep)
    (hquiet : st.opened? s.sessions = Option.none)
    (hissue : ∀ fresh user username single, st.call ≠ .issue fresh user username single) :
    SessionEffect s (st.next s.sessions) Option.none := by
  have heffect := SessionEffect.step (s := s) st false
    fun fresh user username single hcall => absurd hcall (hissue fresh user username single)
  rwa [hquiet] at heffect

private theorem welcome?_of_answer {c : ServerCall} {result : Except ServerError Welcome}
    (hanswer : c.answer s = .welcomed result) : c.welcome? s = result.toOption := by
  rw [ServerCall.welcome?, hanswer]
  cases result <;> rfl

theorem sessionEffect_signIn (a : Arrival) :
    SessionEffect s ((ServerCall.signIn a).next s).sessions ((ServerCall.signIn a).welcome? s) := by
  have hwelcome : (ServerCall.signIn a).welcome? s = (a.perform s).1.toOption :=
    welcome?_of_answer rfl
  have hnext : (ServerCall.signIn a).next s = (a.perform s).2 := rfl
  rw [hwelcome, hnext, Arrival.perform]
  cases hexchange : a.platform.exchange (s.settings.social.platform a.platform) a.network
      a.code with
  | error e =>
    rw [perform_signIn_of_no_exchange hexchange]
    exact .none
  | ok external =>
    cases haccount : s.directory.signIn external a.draws.username true a.draws.user with
    | error e =>
      rw [perform_signIn_of_no_account hexchange haccount]
      exact .none
    | ok result =>
      obtain ⟨found, directory⟩ := result
      have heffect := SessionEffect.step (s := s)
        ⟨a.now, .issue a.draws.session found.account.user found.account.username
          s.settings.session.single⟩ found.created
        (fun fresh user username single hcall => by cases hcall; rfl)
      rw [SessionStep.opened?_issue_eq, SessionStep.next_issue_eq] at heffect
      rw [perform_signIn_of_account hexchange haccount]
      cases hissue : (Sessions.issue a.now a.draws.session found.account.user
          found.account.username s.settings.session.single).perform s.sessions with
      | mk result sessions =>
        rw [hissue] at heffect
        cases result with
        | ok o => exact heffect
        | error e => exact heffect

theorem perform_refresh (fresh : String) (now : Int64) (token : String) :
    (refresh fresh now token).perform s =
      match (Sessions.refresh now fresh token).perform s.sessions with
      | (.ok o, sessions) => (.ok (.ofSession o false), { s with sessions })
      | (.error e, sessions) => (.error (.session e), { s with sessions }) := by
  rw [refresh]
  cases hrefresh : (Sessions.refresh now fresh token).perform s.sessions with
  | mk result sessions =>
    cases result with
    | ok o =>
      refine ServerM.perform_bind_of_ok ?_ _
      rw [ServerM.perform, ServerM.ofSession, hrefresh]
    | error e =>
      refine ServerM.perform_bind_of_error ?_ _
      rw [ServerM.perform, ServerM.ofSession, hrefresh]

theorem sessionEffect_refresh (fresh : String) (now : Int64) (token : String) :
    SessionEffect s ((ServerCall.refresh fresh now token).next s).sessions
      ((ServerCall.refresh fresh now token).welcome? s) := by
  have hwelcome : (ServerCall.refresh fresh now token).welcome? s =
      ((refresh fresh now token).perform s).1.toOption := welcome?_of_answer rfl
  have hnext : (ServerCall.refresh fresh now token).next s =
      ((refresh fresh now token).perform s).2 := rfl
  have heffect := SessionEffect.step (s := s) ⟨now, .refresh fresh token⟩ false
    (fun fresh user username single hcall => by cases hcall)
  rw [SessionStep.opened?_refresh_eq, SessionStep.next_refresh_eq] at heffect
  rw [hwelcome, hnext, perform_refresh]
  cases hrefresh : (Sessions.refresh now fresh token).perform s.sessions with
  | mk result sessions =>
    rw [hrefresh] at heffect
    cases result with
    | ok o => exact heffect
    | error e => exact heffect

/-- A second of the sweeper sweeps the registry, or does nothing to it. -/
theorem sessions_second (now : Int64) :
    (s.second now).sessions = s.sessions ∨
      (s.second now).sessions = (⟨now, .sweep now⟩ : SessionStep).next s.sessions := by
  rw [second]
  cases s.sweeper with
  | none => exact .inl rfl
  | some w =>
    have hregistry := w.registry_second s.sessions.registry now
    split at hregistry
    · exact .inr (congrArg (fun registry => { s.sessions with registry }) hregistry)
    · exact .inl (congrArg (fun registry => { s.sessions with registry }) hregistry)

/-- To the sessions every call of the server is one of their own calls, or nothing. -/
theorem sessionEffect_next (c : ServerCall) :
    SessionEffect s (c.next s).sessions (c.welcome? s) := by
  cases c with
  | signIn a => exact sessionEffect_signIn a
  | refresh fresh now token => exact sessionEffect_refresh fresh now token
  | verify now token => exact .none
  | logout p => exact .of_quiet ⟨0, .logout p.user⟩ rfl (by simp)
  | ban users => exact .of_quiet ⟨0, .ban users⟩ rfl (by simp)
  | sweep time => exact .of_quiet ⟨0, .sweep time⟩ rfl (by simp)
  | shutdown => exact .of_quiet ⟨0, .close⟩ rfl (by simp)
  | second now =>
    have hnext : (ServerCall.second now).next s = s.second now := rfl
    rw [hnext]
    obtain hsame | hswept := sessions_second (s := s) now
    · rw [hsame]
      exact .none
    · rw [hswept]
      exact .of_quiet ⟨now, .sweep now⟩ rfl (by simp)

/-- A call changes nothing but the accounts, the sessions and the sweeper. -/
theorem next_keeps (c : ServerCall) (s : Server) : ∃ directory sessions sweeper,
    c.next s = { s with directory, sessions, sweeper } := by
  cases c with
  | signIn a =>
    have hnext : (ServerCall.signIn a).next s = (a.perform s).2 := rfl
    rw [hnext, Arrival.perform]
    obtain ⟨directory, sessions, hkeeps⟩ :=
      signIn_keeps s a.platform a.network a.code a.draws a.now
    exact ⟨directory, sessions, s.sweeper, hkeeps⟩
  | refresh fresh now token =>
    have hnext : (ServerCall.refresh fresh now token).next s =
        ((refresh fresh now token).perform s).2 := rfl
    rw [hnext, perform_refresh]
    split
    · exact ⟨_, _, _, rfl⟩
    · exact ⟨_, _, _, rfl⟩
  | second now =>
    have hnext : (ServerCall.second now).next s = s.second now := rfl
    rw [hnext, second]
    split
    · exact ⟨_, _, _, rfl⟩
    · exact ⟨_, _, _, rfl⟩
  | verify now token => exact ⟨_, _, _, rfl⟩
  | logout p => exact ⟨_, _, _, rfl⟩
  | ban users => exact ⟨_, _, _, rfl⟩
  | sweep time => exact ⟨_, _, _, rfl⟩
  | shutdown => exact ⟨_, _, _, rfl⟩

theorem settings_next (c : ServerCall) : (c.next s).settings = s.settings := by
  obtain ⟨directory, sessions, sweeper, hkeeps⟩ := next_keeps c s
  rw [hkeeps]

/-- The server after a run of calls. -/
def run (s : Server) : List ServerCall → Server
  | [] => s
  | c :: calls => (c.next s).run calls

/-- Whether the sessions are run by the settings of the server, with a registry that refuses nothing
while it is open. -/
structure IsSettled (s : Server) : Prop where
  gate : s.sessions.gate = {}
  settings : s.sessions.settings = s.settings.session

theorem isSettled_start (settings : ServerSettings) (supplies : Supplies) (store : Store)
    (directory : Directory) : (start settings supplies store directory).IsSettled :=
  ⟨rfl, rfl⟩

theorem IsSettled.next (hsettled : s.IsSettled) (c : ServerCall) : (c.next s).IsSettled := by
  have hkept : (c.next s).sessions.gate = {} ∧
      (c.next s).sessions.settings = s.sessions.settings := by
    have heffect := sessionEffect_next (s := s) c
    generalize (c.next s).sessions = sessions at heffect ⊢
    generalize c.welcome? s = w at heffect
    cases heffect with
    | none => exact ⟨hsettled.gate, rfl⟩
    | step st created hsingle =>
      obtain ⟨hsettings, hgate⟩ := st.kept_next hsettled.gate
      exact ⟨hgate, hsettings⟩
  exact ⟨hkept.1, by rw [hkept.2, hsettled.settings, settings_next]⟩

theorem IsSettled.run (hsettled : s.IsSettled) (calls : List ServerCall) :
    (s.run calls).IsSettled := by
  induction calls generalizing s with
  | nil => exact hsettled
  | cons c calls ih => exact ih (hsettled.next c)

end Server

end PlayerHub
