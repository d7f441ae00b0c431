import PlayerHub.Proofs.Session.Sweep

namespace PlayerHub

/-- How far the renewal of a session has come: its token has been checked, or its session has been
removed as well. -/
inductive Renewal where
  | approved (c : Claims)
  | retired (c : Claims)

/-- Sessions with a sweeper, and the renewals that are under way, each with a ticket. -/
structure SweptSessions where
  sessions : Sessions
  sweeper : Sweeper
  renewals : KeyMap Nat Renewal := ∅

/-- A call of the sessions at one moment, a call of their registry, a part of a call of the
sessions, or a second of the sweeper. A part may have read the clock before it comes to the
registry. The parts of a renewal are its check, its removal and the opening of the new session, and
other calls may come between them. -/
inductive RegistryCall where
  | session (call : SessionCall)
  | register (single : Bool) (user : UserId) (e : SessionEntry)
  | remove (user : UserId) (access refresh : String)
  | isValidAccess (user : UserId) (expiry : Int64) (id : String)
  | isValidRefresh (user : UserId) (expiry : Int64) (id : String)
  | issue (stamp : Int64) (fresh : String) (user : UserId) (username : String) (single : Bool)
  | verify (checked : Int64) (token : String)
  | approve (checked : Int64) (ticket : Nat) (token : String)
  | retire (ticket : Nat)
  | renew (stamp : Int64) (ticket : Nat) (fresh : String)
  | second

/-- The answer to a call. -/
inductive RegistryAnswer where
  | session (a : SessionAnswer)
  | registered (result : Except SessionError Unit)
  | removed (found : Bool)
  | valid (alive : Bool)
  | approved (result : Except SessionError Claims)
  | retired (result : Except SessionError Unit)
  | done

/-- A call at a time. -/
structure RegistryStep where
  now : Int64
  call : RegistryCall

namespace SweptSessions

/-- Sessions over a registry with a sweeper, where no renewal is under way. -/
def start (settings : SessionSettings) (registry : Registry) (sweeper : Sweeper) : SweptSessions :=
  { sessions := { settings, registry }, sweeper }

/-- The sessions after one more second of the sweeper, at the end of which the time is `now`. -/
def second (s : SweptSessions) (now : Int64) : SweptSessions :=
  let (sweeper, registry) := s.sweeper.second s.sessions.registry now
  { s with sessions.registry := registry, sweeper }

/-- Checks the token of a renewal, which is under way then. -/
def approve (s : SweptSessions) (checked now : Int64) (ticket : Nat) (token : String) :
    RegistryAnswer × SweptSessions :=
  match s.sessions.approve checked now token with
  | .ok c => (.approved (.ok c), { s with renewals := s.renewals.insert ticket (.approved c) })
  | .error e => (.approved (.error e), s)

/-- Removes the session of a renewal whose token has been checked. If it is gone, so is the
renewal. -/
def retire (s : SweptSessions) (ticket : Nat) : RegistryAnswer × SweptSessions :=
  match s.renewals.get? ticket with
  | some (.approved c) =>
    match (Sessions.retire c).perform s.sessions with
    | (.ok (), sessions) =>
      (.retired (.ok ()),
        { s with sessions, renewals := s.renewals.insert ticket (.retired c) })
    | (.error e, sessions) =>
      (.retired (.error e), { s with sessions, renewals := s.renewals.erase ticket })
  | _ => (.done, s)

/-- Opens the new session of a renewal whose old one has been removed, and so ends the renewal. -/
def renew (s : SweptSessions) (stamp : Int64) (ticket : Nat) (fresh : String) :
    RegistryAnswer × SweptSessions :=
  match s.renewals.get? ticket with
  | some (.retired c) =>
    ((Sessions.renew stamp fresh c).perform s.sessions).map
      (fun result => .session (.ofResult .opened result))
      ({ s with sessions := ·, renewals := s.renewals.erase ticket })
  | _ => (.done, s)

/-- Whether the session that claims speak of is awaited to be removed by a renewal. -/
def Awaits (s : SweptSessions) (c : Claims) : Prop :=
  ∃ ticket, s.renewals.get? ticket = some (.approved c)

end SweptSessions

namespace RegistryStep

/-- The answer to a call, and the sessions after it. -/
def perform (st : RegistryStep) (s : SweptSessions) : RegistryAnswer × SweptSessions :=
  match st.call with
  | .session call =>
    ((⟨st.now, call⟩ : SessionStep).perform s.sessions).map .session ({ s with sessions := · })
  | .register single user e =>
    ((Sessions.register single user e).perform s.sessions).map .registered
      ({ s with sessions := · })
  | .remove user access refresh =>
    (.removed (s.sessions.registry.has user access refresh),
      { s with sessions.registry := s.sessions.registry.remove user access refresh })
  | .isValidAccess user expiry id =>
    (.valid (s.sessions.registry.isValidAccess st.now user expiry id), s)
  | .isValidRefresh user expiry id =>
    (.valid (s.sessions.registry.isValidRefresh st.now user expiry id), s)
  | .issue stamp fresh user username single =>
    ((Sessions.issue stamp fresh user username single).perform s.sessions).map
      (fun result => .session (.ofResult .opened result)) ({ s with sessions := · })
  | .verify checked token =>
    (.session (.ofResult .verified (s.sessions.verifyAt checked st.now token)), s)
  | .approve checked ticket token => s.approve checked st.now ticket token
  | .retire ticket => s.retire ticket
  | .renew stamp ticket fresh => s.renew stamp ticket fresh
  | .second => (.done, s.second st.now)

/-- The sessions after a call. -/
def next (st : RegistryStep) (s : SweptSessions) : SweptSessions := (st.perform s).2

/-- The time with which a step sweeps, if it does. -/
def sweeps? (st : RegistryStep) (s : SweptSessions) : Option Int64 :=
  match st.call with
  | .session (.sweep time) => some time
  | .second => if s.sweeper.isDue s.sessions.registry then some st.now else none
  | _ => none

end RegistryStep

/-- Whether a call does not take the refresh token of the session that claims speak of without its
access token. -/
def RegistryCall.Spares (c : Claims) : RegistryCall → Prop
  | .remove user access refresh => user = c.user → refresh = c.session → access = c.session
  | _ => True

namespace SweptSessions

/-- The sessions after a run. -/
def run (s : SweptSessions) : List RegistryStep → SweptSessions
  | [] => s
  | st :: steps => (st.next s).run steps

/-- Whether a session outlasts every sweep of a run that comes between the check of its renewal and
its removal, and no call between them takes its refresh token without its access token. A run that
has no renewals in parts is undisturbed. -/
def Undisturbed (s : SweptSessions) (steps : List RegistryStep) : Prop :=
  ∀ earlier st later, steps = earlier ++ st :: later → ∀ c, (s.run earlier).Awaits c →
    (∀ time, st.sweeps? (s.run earlier) = some time →
      (s.run earlier).sessions.registry.Outlasts c time) ∧ st.call.Spares c

variable {s s' : SweptSessions} {st : RegistryStep} {steps : List RegistryStep}

theorem Undisturbed.cons
    (hhead : ∀ c, s.Awaits c →
      (∀ time, st.sweeps? s = some time → s.sessions.registry.Outlasts c time) ∧
        st.call.Spares c)
    (htail : (st.next s).Undisturbed steps) : s.Undisturbed (st :: steps) := by
  intro earlier st' later heq c hc
  cases earlier with
  | nil =>
    cases heq
    exact hhead c hc
  | cons first earlier =>
    cases heq
    exact htail earlier st' later rfl c hc

/-- A renewal whose parts come one right after the other is a refresh. -/
theorem sessions_run_renewal (now : Int64) {ticket : Nat} (fresh token : String)
    (hgate : s.sessions.gate = {}) (hticket : s.renewals.get? ticket = none) :
    (s.run [⟨now, .approve now ticket token⟩, ⟨now, .retire ticket⟩,
        ⟨now, .renew now ticket fresh⟩]).sessions =
      ((Sessions.refresh now fresh token).perform s.sessions).2 := by
  simp only [run, RegistryStep.next, RegistryStep.perform, approve]
  cases happrove : s.sessions.approve now now token with
  | error e =>
    rw [Sessions.perform_refresh_of_approve_error happrove]
    simp only [retire, renew, hticket]
  | ok c =>
    have hrenew := Sessions.renewable?_eq_some_iff_approve.2 happrove
    have hvalid := (Sessions.renewable?_eq_some_iff.1 hrenew).2
    have hretire := Sessions.perform_retire hgate c
    rw [if_pos (Registry.has_of_isValidRefresh _ hvalid)] at hretire
    rw [Sessions.perform_refresh_of_renewable hgate hrenew]
    simp only [retire, renew, KeyMap.get?_insert, if_true, hretire, Prod.map,
      Sessions.perform_renew]
    rfl

/-- Whether sessions with the same renewals under way cannot be told apart from the time `now`
on. -/
structure AgreesFrom (now : Int64) (s s' : SweptSessions) : Prop where
  sessions : s.sessions.AgreesFrom now s.Awaits s'.sessions
  renewals : s.renewals = s'.renewals

theorem AgreesFrom.mono {now : Int64} (hagree : AgreesFrom now s s') {later : Int64}
    (hlater : now ≤ later) : AgreesFrom later s s' :=
  ⟨hagree.sessions.mono hlater, hagree.renewals⟩

/-- Sessions that agree go on agreeing when the state of a renewal is put down. -/
theorem agreesFrom_insert {now : Int64} {sessions sessions' : Sessions}
    (hsessions : sessions.AgreesFrom now s.Awaits sessions') (ticket : Nat) {renewal : Renewal}
    (hvalid : ∀ c, renewal = .approved c →
      sessions.registry.isValidRefresh now c.user c.expiry c.session = true) :
    AgreesFrom now { s with sessions, renewals := s.renewals.insert ticket renewal }
      { s' with sessions := sessions', renewals := s.renewals.insert ticket renewal } := by
  refine ⟨⟨hsessions.settings, hsessions.gates, hsessions.registry.await ?_⟩, rfl⟩
  rintro c ⟨ticket', hticket⟩
  rw [KeyMap.get?_insert] at hticket
  split at hticket
  · exact .inr (hvalid c (Option.some.inj hticket))
  · exact .inl ⟨ticket', hticket⟩

theorem agreesFrom_erase {now : Int64} {sessions sessions' : Sessions}
    (hsessions : sessions.AgreesFrom now s.Awaits sessions') (ticket : Nat) :
    AgreesFrom now { s with sessions, renewals := s.renewals.erase ticket }
      { s' with sessions := sessions', renewals := s.renewals.erase ticket } := by
  refine ⟨⟨hsessions.settings, hsessions.gates, hsessions.registry.await ?_⟩, rfl⟩
  rintro c ⟨ticket', hticket⟩
  rw [KeyMap.get?_erase] at hticket
  split at hticket
  · cases hticket
  · exact .inl ⟨ticket', hticket⟩

/-- A check finds the same in both, for a dead session is as good as none. From then on the session
is awaited. -/
theorem AgreesFrom.approve {now : Int64} (hagree : AgreesFrom now s s') (checked : Int64)
    (ticket : Nat) (token : String) :
    (s.approve checked now ticket token).1 = (s'.approve checked now ticket token).1 ∧
      AgreesFrom now (s.approve checked now ticket token).2
        (s'.approve checked now ticket token).2 := by
  have happrove := hagree.sessions.approve_eq checked token
  unfold SweptSessions.approve
  cases haccept : s'.sessions.approve checked now token with
  | error e =>
    rw [haccept] at happrove
    simp only [happrove]
    exact ⟨trivial, hagree⟩
  | ok c =>
    rw [haccept] at happrove
    simp only [happrove, ← hagree.renewals]
    refine ⟨trivial, agreesFrom_insert hagree.sessions ticket ?_⟩
    rintro _ ⟨⟩
    exact (Sessions.accept_eq_ok_iff.1 happrove).2

/-- A removal finds a session that is awaited in both or in neither. -/
theorem AgreesFrom.retire {now : Int64} (hagree : AgreesFrom now s s') (ticket : Nat) :
    (s.retire ticket).1 = (s'.retire ticket).1 ∧
      AgreesFrom now (s.retire ticket).2 (s'.retire ticket).2 := by
  unfold SweptSessions.retire
  rw [← hagree.renewals]
  split
  · rename_i c hticket
    obtain ⟨hresult, hnext⟩ := hagree.sessions.retire ⟨ticket, hticket⟩
    cases hretire : (Sessions.retire c).perform s.sessions with
    | mk result sessions =>
      cases hretire' : (Sessions.retire c).perform s'.sessions with
      | mk result' sessions' =>
        rw [hretire, hretire'] at hresult hnext
        obtain rfl : result = result' := hresult
        cases result with
        | ok _ =>
          refine ⟨rfl, agreesFrom_insert hnext ticket ?_⟩
          rintro _ ⟨⟩
        | error e => exact ⟨rfl, agreesFrom_erase hnext ticket⟩
  · exact ⟨rfl, hagree⟩

theorem AgreesFrom.renew {now : Int64} (hagree : AgreesFrom now s s') (stamp : Int64)
    (ticket : Nat) (fresh : String) :
    (s.renew stamp ticket fresh).1 = (s'.renew stamp ticket fresh).1 ∧
      AgreesFrom now (s.renew stamp ticket fresh).2 (s'.renew stamp ticket fresh).2 := by
  unfold SweptSessions.renew
  rw [← hagree.renewals]
  split
  · rename_i c _
    obtain ⟨hresult, hnext⟩ := hagree.sessions.renew stamp fresh c
    refine ⟨congrArg (fun result => RegistryAnswer.session (.ofResult .opened result)) hresult,
      agreesFrom_erase hnext ticket⟩
  · exact ⟨rfl, hagree⟩

end SweptSessions

end PlayerHub
