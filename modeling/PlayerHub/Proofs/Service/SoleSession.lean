import PlayerHub.Proofs.Service.Call

namespace PlayerHub

/-- A step that opens a session removes every other one of its user, if new sessions are to be the
only ones. -/
theorem SessionStep.removes_of_opened {st : SessionStep} {s : Sessions} {o : OpenedSession}
    (hgate : s.gate = {}) (hrenewals : s.settings.single = true)
    (hissues : ∀ fresh user username single, st.call = .issue fresh user username single →
      single = true)
    (hopened : st.opened? s = some o) (id : String) (e : Int64) : st.Removes s o.user id e := by
  obtain ⟨now, call⟩ := st
  cases call with
  | issue fresh user username single =>
    refine ⟨?_, hissues fresh user username single rfl, Option.isSome_iff_exists.2 ⟨o, hopened⟩⟩
    rw [opened?_issue hgate] at hopened
    split at hopened
    · cases hopened
    · cases hopened
      rfl
  | refresh fresh token => exact .inr ⟨hrenewals, o, hopened, rfl⟩
  | verify token =>
    rw [opened?_verify] at hopened
    cases hopened
  | logout user => cases hopened
  | ban users => cases hopened
  | sweep time => cases hopened
  | close => cases hopened

/-- The user and the id of the session of which the access token is. -/
def Welcome.session? (w : Welcome) : Option (UserId × String) :=
  (Token.claims? w.token).map fun c => (c.user, c.session)

theorem Welcome.session?_ofSession {s : Sessions} {st : SessionStep} {o : OpenedSession}
    (hgate : s.gate = {}) (hopened : st.opened? s = some o) (created : Bool) :
    (Welcome.ofSession o created).session? = some (o.user, o.session) := by
  obtain ⟨fresh, user, username, rfl, -⟩ := SessionStep.opened?_eq_make hgate hopened
  rw [session?, ofSession, Sessions.claims?_token_make]
  rfl

/-- The id of the session that a user has been given last. -/
def lastSession? (user : UserId) (welcomes : List Welcome) : Option String :=
  (welcomes.filterMap (·.session?)).reverse.lookup user

theorem lastSession?_append_singleton {w : Welcome} {owner : UserId} {session : String}
    (hsession : w.session? = some (owner, session)) (user : UserId) (welcomes : List Welcome) :
    lastSession? user (welcomes ++ [w]) =
      if user = owner then some session else lastSession? user welcomes := by
  have hlast : [w].filterMap (·.session?) = [(owner, session)] := by
    rw [List.filterMap_cons_some hsession, List.filterMap_nil]
  rw [lastSession?, List.filterMap_append, hlast, List.reverse_append, List.reverse_singleton,
    List.singleton_append, lookup_cons_eq_ite]
  rfl

namespace Server

/-- The players who are welcomed in a run, when they sign in or renew their tokens. -/
def welcomes (s : Server) : List ServerCall → List Welcome
  | [] => []
  | c :: calls => (c.welcome? s).toList ++ (c.next s).welcomes calls

variable {s : Server}

/-- Whether every id in the registry is that of the session that its user has been given last. -/
def HoldsLast (s : Server) (past : List Welcome) : Prop :=
  ∀ use user id e, s.sessions.registry.expiry? use user id = some e →
    lastSession? user past = some id

/-- Where a new session ends the others of its user, every id that is left is of the session opened
last. Access tokens and refresh tokens may lose it at different times, but neither can hold on to an
older one. -/
theorem HoldsLast.next {past : List Welcome} (hlast : s.HoldsLast past)
    (hsettled : s.IsSettled) (hsingle : s.settings.session.single = true) (c : ServerCall) :
    (c.next s).HoldsLast (past ++ (c.welcome? s).toList) := by
  intro use user id e hid
  have heffect := sessionEffect_next (s := s) c
  generalize (c.next s).sessions = sessions at heffect hid
  generalize c.welcome? s = w at heffect ⊢
  cases heffect with
  | none =>
    rw [Option.toList_none, List.append_nil]
    exact hlast use user id e hid
  | step st created hissues =>
    have horigin := SessionStep.kept_or_opened_of_next hsettled.gate hid
    cases hopened : st.opened? s.sessions with
    | none =>
      obtain ⟨hbefore, -⟩ | ⟨o, ho, -⟩ := horigin
      · rw [Option.map_none, Option.toList_none, List.append_nil]
        exact hlast use user id e hbefore
      · cases hopened.symm.trans ho
    | some o =>
      rw [Option.map_some, Option.toList_some,
        lastSession?_append_singleton (Welcome.session?_ofSession hsettled.gate hopened created)]
      obtain ⟨hbefore, hkept⟩ | ⟨o', ho, huser, hsession, -⟩ := horigin
      · have hother : user ≠ o.user := by
          rintro rfl
          refine hkept (SessionStep.removes_of_opened hsettled.gate ?_ ?_ hopened id e)
          · rw [hsettled.settings, hsingle]
          · intro fresh owner username single hcall
            rw [hissues fresh owner username single hcall, hsingle]
        rw [if_neg hother]
        exact hlast use user id e hbefore
      · cases hopened.symm.trans ho
        rw [if_pos huser.symm, hsession]

theorem HoldsLast.run {past : List Welcome} (hlast : s.HoldsLast past)
    (hsettled : s.IsSettled) (hsingle : s.settings.session.single = true)
    (calls : List ServerCall) : (s.run calls).HoldsLast (past ++ s.welcomes calls) := by
  induction calls generalizing s past with
  | nil =>
    rw [welcomes, List.append_nil]
    exact hlast
  | cons c calls ih =>
    rw [welcomes, ← List.append_assoc]
    refine ih (hlast.next hsettled hsingle c) (hsettled.next c) ?_
    rw [settings_next, hsingle]

/-- A server that allows a user one session holds no more than one id in either kind of token for
any user, after any run of calls. It is the id of the session that the user has been given last, and
so the same in both. -/
theorem ids_of_last_session {settings : ServerSettings} {supplies : Supplies} {store : Store}
    {directory : Directory} (hsingle : settings.session.single = true) (calls : List ServerCall)
    (user : UserId) :
    let s := start settings { supplies with registry := {} } store directory
    let u := (s.run calls).sessions.registry.sessionsOf user
    u.access.size ≤ 1 ∧ u.refresh.size ≤ 1 ∧
      (∀ access refresh, u.access.contains access = true → u.refresh.contains refresh = true →
        access = refresh) ∧
      ∀ use id, (u.ids use).contains id = true →
        lastSession? user (s.welcomes calls) = some id := by
  intro s u
  have hfresh : s.HoldsLast [] := by
    intro use user id e hid
    rw [show s.sessions.registry = {} from rfl, Registry.expiry?_empty] at hid
    cases hid
  have hlast : ∀ use id, (u.ids use).contains id = true →
      lastSession? user (s.welcomes calls) = some id := by
    intro use id hcontains
    obtain ⟨e, hid⟩ := Option.isSome_iff_exists.1 hcontains
    exact hfresh.run (isSettled_start _ _ _ _) hsingle calls use user id e hid
  have hsame : ∀ use use' id id', (u.ids use).contains id = true →
      (u.ids use').contains id' = true → id = id' := by
    intro use use' id id' hid hid'
    exact Option.some.inj ((hlast use id hid).symm.trans (hlast use' id' hid'))
  exact ⟨KeyMap.size_le_one (hsame .access .access), KeyMap.size_le_one (hsame .refresh .refresh),
    hsame .access .refresh, hlast⟩

/-- A player who signs in a second time holds the second session only. -/
theorem second_sign_in_is_held :
    let ada : UserId := ⟨List.replicate 32 1, List.length_replicate⟩
    let arrival : String → Int64 → Arrival := fun session now =>
      ⟨.wechat, .answering (Platform.wechat.giving "o"), ⟨"", none⟩, ⟨ada, "ada", session⟩, now⟩
    let calls : List ServerCall := [.signIn (arrival "a" 100), .signIn (arrival "b" 200)]
    let s := start {} {} {} {}
    let u := (s.run calls).sessions.registry.sessionsOf ada
    u.access.contains "b" = true ∧ u.refresh.contains "b" = true ∧ u.access.size ≤ 1 ∧
      u.refresh.size ≤ 1 ∧ lastSession? ada (s.welcomes calls) = some "b" := by
  intro ada arrival calls s u
  have hexchange : ∀ session now, (arrival session now).exchange {} = .ok ⟨"o"⟩ := by
    intro session now
    exact Platform.exchange_giving rfl (by decide)
  have hfirst := perform_of_account (a := arrival "a" 100) (s := s) rfl rfl (hexchange _ _) rfl
  have hsecond := perform_of_account (a := arrival "b" 200) (s := ((arrival "a" 100).perform s).2)
    (by rw [hfirst]; rfl) (by rw [hfirst]; rfl) (by rw [hfirst]; exact hexchange _ _)
    (by rw [hfirst]; rfl)
  have hrun : s.run calls = ((arrival "b" 200).perform ((arrival "a" 100).perform s).2).2 := rfl
  have hids : u.access.contains "b" = true ∧ u.refresh.contains "b" = true := by
    dsimp only [u]
    rw [hrun, hsecond, hfirst]
    decide
  obtain ⟨haccess, hrefresh, -, hlast⟩ := @ids_of_last_session {} {} {} {} rfl calls ada
  exact ⟨hids.1, hids.2, haccess, hrefresh, hlast .access "b" hids.1⟩

end Server

end PlayerHub
