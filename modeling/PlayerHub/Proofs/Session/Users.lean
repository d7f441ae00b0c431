import PlayerHub.Proofs.Session.SweptRun

namespace PlayerHub

namespace UserSessions

theorem isEmpty_eq_false_iff {u : UserSessions} :
    u.isEmpty = false ↔ ∃ use id e, (u.ids use).get? id = some e := by
  rw [isEmpty, Bool.and_eq_false_iff, KeyMap.isEmpty_eq_false_iff, KeyMap.isEmpty_eq_false_iff]
  constructor
  · rintro (⟨id, e, hid⟩ | ⟨id, e, hid⟩)
    · exact ⟨.access, id, e, hid⟩
    · exact ⟨.refresh, id, e, hid⟩
  · rintro ⟨use, id, e, hid⟩
    cases use with
    | access => exact .inl ⟨id, e, hid⟩
    | refresh => exact .inr ⟨id, e, hid⟩

theorem isEmpty_insert (u : UserSessions) (e : SessionEntry) : (u.insert e).isEmpty = false :=
  rfl

end UserSessions

namespace Registry

variable {r : Registry}

/-- Whether a user has an id in a registry. -/
def HasIds (r : Registry) (user : UserId) : Prop :=
  ∃ use id e, r.expiry? use user id = some e

/-- Whether a registry knows no user who is left without ids. -/
def IsTidy (r : Registry) : Prop :=
  ∀ user u, r.users.get? user = some u → u.isEmpty = false

theorem isTidy_empty : ({} : Registry).IsTidy := by
  intro user u hget
  cases hget

theorem IsTidy.insert (htidy : r.IsTidy) (owner : UserId) {u : UserSessions}
    (hu : u.isEmpty = false) : IsTidy { r with users := r.users.insert owner u } := by
  intro user u' hget
  rw [KeyMap.get?_insert] at hget
  split at hget
  · cases hget
    exact hu
  · exact htidy user u' hget

theorem IsTidy.enroll (htidy : r.IsTidy) (single : Bool) (user : UserId) (e : SessionEntry) :
    (r.enroll single user e).IsTidy :=
  htidy.insert user (UserSessions.isEmpty_insert _ e)

theorem IsTidy.removeAll (htidy : r.IsTidy) (ended : UserId) : (r.removeAll ended).IsTidy := by
  intro user u hget
  rw [Registry.removeAll, KeyMap.get?_erase] at hget
  split at hget
  · cases hget
  · exact htidy user u hget

theorem IsTidy.ban (htidy : r.IsTidy) (users : List UserId) : (r.ban users).IsTidy := by
  induction users generalizing r with
  | nil => exact htidy
  | cons user users ih => exact ih (htidy.removeAll user)

theorem IsTidy.remove (htidy : r.IsTidy) (user : UserId) (access refresh : String) :
    (r.remove user access refresh).IsTidy := by
  unfold Registry.remove
  dsimp only
  split
  · exact htidy.removeAll user
  · rename_i hleft
    exact htidy.insert user (Bool.eq_false_of_not_eq_true hleft)

theorem isTidy_sweep (r : Registry) (now : Int64) : (r.sweep now).IsTidy := by
  intro user u hget
  rw [sweep, KeyMap.get?_filter, Option.filter_eq_some_iff, Bool.not_eq_true'] at hget
  exact hget.2

theorem IsTidy.contains_iff (htidy : r.IsTidy) (user : UserId) :
    r.users.contains user = true ↔ r.HasIds user := by
  rw [KeyMap.contains_eq_true_iff]
  constructor
  · rintro ⟨u, hget⟩
    obtain ⟨use, id, e, hid⟩ := UserSessions.isEmpty_eq_false_iff.1 (htidy user u hget)
    refine ⟨use, id, e, ?_⟩
    rw [expiry?, sessionsOf, hget]
    exact hid
  · rintro ⟨use, id, e, hid⟩
    cases hget : r.users.get? user with
    | none =>
      rw [expiry?, sessionsOf, hget, Option.getD_none, UserSessions.get?_ids_empty] at hid
      cases hid
    | some u => exact ⟨u, rfl⟩

theorem IsTidy.encard_hasIds (htidy : r.IsTidy) : {user | r.HasIds user}.encard = r.userCount := by
  simp only [← htidy.contains_iff]
  exact r.users.encard_keys

/-- A sweep forgets the users whose ids have all expired. -/
theorem not_hasIds_sweep_iff {now : Int64} {user : UserId} :
    ¬ (r.sweep now).HasIds user ↔ ∀ use id e, r.expiry? use user id = some e → e < now := by
  simp only [HasIds, expiry?_sweep_eq_some_iff, not_exists, not_and, Int64.not_le]

theorem IsTidy.encard_expired (htidy : r.IsTidy) (now : Int64) :
    {user | r.HasIds user ∧ ∀ use id e, r.expiry? use user id = some e → e < now}.encard =
      r.sweptUsers now := by
  have hkept : {user | (r.sweep now).HasIds user} ⊆ {user | r.HasIds user} := by
    rintro user ⟨use, id, e, hid⟩
    exact ⟨use, id, e, ((r.expiry?_sweep_eq_some_iff).1 hid).1⟩
  have hsplit := Set.encard_sdiff_add_encard_of_subset hkept
  have hexpired : {user | r.HasIds user} \ {user | (r.sweep now).HasIds user} =
      {user | r.HasIds user ∧ ∀ use id e, r.expiry? use user id = some e → e < now} := by
    ext user
    exact and_congr_right fun _ => not_hasIds_sweep_iff
  rw [hexpired, htidy.encard_hasIds, (r.isTidy_sweep now).encard_hasIds] at hsplit
  rw [sweptUsers, ENat.natCast_sub, ← hsplit]
  exact ((ENat.addLECancellable_natCast _).add_tsub_cancel_right).symm

end Registry

private theorem SessionStep.isTidy_next_issue {s : Sessions} (hgate : s.gate = {})
    (htidy : s.registry.IsTidy) (now : Int64) (fresh : String) (user : UserId)
    (username : String) (single : Bool) :
    ((⟨now, .issue fresh user username single⟩ : SessionStep).next s).registry.IsTidy := by
  rw [next_issue hgate]
  split
  · exact htidy
  · exact htidy.enroll single user _

/-- No call leaves a user in the registry who has no id there. -/
theorem SessionStep.isTidy_next {s : Sessions} (st : SessionStep) (hgate : s.gate = {})
    (htidy : s.registry.IsTidy) : (st.next s).registry.IsTidy := by
  obtain ⟨now, call⟩ := st
  cases call with
  | issue fresh user username single =>
    exact isTidy_next_issue hgate htidy now fresh user username single
  | refresh fresh token =>
    cases hrenew : s.renewable? now token with
    | none =>
      rw [next_refresh_of_not_renewable hrenew]
      exact htidy
    | some c =>
      rw [next_refresh_eq_issue hgate hrenew]
      exact isTidy_next_issue (s := s.without c) hgate (htidy.remove _ _ _) _ _ _ _ _
  | verify token => exact htidy
  | logout user => exact htidy.removeAll user
  | ban users => exact htidy.ban users
  | sweep time => exact s.registry.isTidy_sweep time
  | close => exact htidy

namespace SweptSessions

variable {s : SweptSessions}

/-- What every moment of a run has in common. -/
structure Tidy (s : SweptSessions) : Prop where
  gate : s.sessions.gate = {}
  registry : s.sessions.registry.IsTidy

theorem Tidy.next_session (htidy : s.Tidy) (st : SessionStep) :
    (st.next s.sessions).gate = {} ∧ (st.next s.sessions).registry.IsTidy :=
  ⟨(st.kept_next htidy.gate).2, st.isTidy_next htidy.gate htidy.registry⟩

theorem Tidy.approve (htidy : s.Tidy) (checked now : Int64) (ticket : Nat) (token : String) :
    (s.approve checked now ticket token).2.Tidy := by
  unfold SweptSessions.approve
  split
  · exact ⟨htidy.gate, htidy.registry⟩
  · exact htidy

theorem Tidy.retire (htidy : s.Tidy) (ticket : Nat) : (s.retire ticket).2.Tidy := by
  unfold SweptSessions.retire
  split
  · rename_i c _
    have hkept : ∀ result sessions, (Sessions.retire c).perform s.sessions = (result, sessions) →
        sessions.gate = {} ∧ sessions.registry.IsTidy := by
      intro result sessions hretire
      rw [Sessions.perform_retire htidy.gate] at hretire
      obtain rfl : s.sessions.without c = sessions := congrArg Prod.snd hretire
      exact ⟨htidy.gate, htidy.registry.remove _ _ _⟩
    split
    · rename_i sessions hretire
      obtain ⟨hgate, hregistry⟩ := hkept _ _ hretire
      exact ⟨hgate, hregistry⟩
    · rename_i e sessions hretire
      obtain ⟨hgate, hregistry⟩ := hkept _ _ hretire
      exact ⟨hgate, hregistry⟩
  · exact htidy

theorem Tidy.renew (htidy : s.Tidy) (stamp : Int64) (ticket : Nat) (fresh : String) :
    (s.renew stamp ticket fresh).2.Tidy := by
  unfold SweptSessions.renew
  split
  · rename_i c _
    rw [Sessions.perform_renew]
    obtain ⟨hgate, hregistry⟩ := htidy.next_session
      ⟨stamp, .issue fresh c.user c.username s.sessions.settings.single⟩
    exact ⟨hgate, hregistry⟩
  · exact htidy

theorem Tidy.next (htidy : s.Tidy) (st : RegistryStep) : (st.next s).Tidy := by
  obtain ⟨now, call⟩ := st
  cases call with
  | session call =>
    obtain ⟨hgate, hregistry⟩ := htidy.next_session ⟨now, call⟩
    exact ⟨hgate, hregistry⟩
  | register single user e =>
    have hnext : ((⟨now, .register single user e⟩ : RegistryStep).next s).sessions =
        ((Sessions.register single user e).perform s.sessions).2 := rfl
    rw [Sessions.perform_register htidy.gate] at hnext
    split at hnext
    · exact ⟨hnext ▸ htidy.gate, hnext ▸ htidy.registry⟩
    · exact ⟨hnext ▸ htidy.gate, hnext ▸ htidy.registry.enroll single user e⟩
  | remove user access refresh => exact ⟨htidy.gate, htidy.registry.remove user access refresh⟩
  | isValidAccess user expiry id => exact htidy
  | isValidRefresh user expiry id => exact htidy
  | issue stamp fresh user username single =>
    obtain ⟨hgate, hregistry⟩ := htidy.next_session ⟨stamp, .issue fresh user username single⟩
    exact ⟨hgate, hregistry⟩
  | verify checked token => exact htidy
  | approve checked ticket token => exact htidy.approve checked now ticket token
  | retire ticket => exact htidy.retire ticket
  | renew stamp ticket fresh => exact htidy.renew stamp ticket fresh
  | second =>
    refine ⟨htidy.gate, ?_⟩
    have hnext : ((⟨now, .second⟩ : RegistryStep).next s).sessions.registry =
        (s.sweeper.second s.sessions.registry now).2 := rfl
    rw [hnext, Sweeper.registry_second]
    split
    · exact s.sessions.registry.isTidy_sweep now
    · exact htidy.registry

theorem Tidy.run (htidy : s.Tidy) (steps : List RegistryStep) : (s.run steps).Tidy := by
  induction steps generalizing s with
  | nil => exact htidy
  | cons st steps ih => exact ih (htidy.next st)

/-- Whatever has been done to a registry, it knows just the users who have an id in it. To remove an
id of each kind succeeds if the user has either, and takes nothing else. A sweep keeps just the ids
that have not expired, and tells how many users had only others. -/
theorem users_are_those_with_ids (settings : SessionSettings) (sweeper : Sweeper)
    (steps : List RegistryStep) :
    let s := (start settings {} sweeper).run steps
    let r := s.sessions.registry
    (∀ user, r.users.contains user = true ↔ r.HasIds user) ∧
      {user | r.HasIds user}.encard = r.userCount ∧
      (∀ now user access refresh, ∃ found s',
        (⟨now, .remove user access refresh⟩ : RegistryStep).perform s = (.removed found, s') ∧
          (found = true ↔ (∃ e, r.expiry? .access user access = some e) ∨
            ∃ e, r.expiry? .refresh user refresh = some e) ∧
          ∀ use owner id, s'.sessions.registry.expiry? use owner id =
            if owner = user ∧ id = use.of access refresh then none
            else r.expiry? use owner id) ∧
      ∀ now time, ∃ gone s',
        (⟨now, .session (.sweep time)⟩ : RegistryStep).perform s = (.session (.swept gone), s') ∧
          (∀ use user id e, s'.sessions.registry.expiry? use user id = some e ↔
            r.expiry? use user id = some e ∧ time ≤ e) ∧
          {user | r.HasIds user ∧
            ∀ use id e, r.expiry? use user id = some e → e < time}.encard = gone := by
  intro s r
  have hstart : (start settings {} sweeper).Tidy := ⟨rfl, Registry.isTidy_empty⟩
  have htidy : r.IsTidy := (hstart.run steps).registry
  refine ⟨htidy.contains_iff, htidy.encard_hasIds, ?_, ?_⟩
  · intro now user access refresh
    exact ⟨_, _, rfl, r.has_iff, r.expiry?_remove user access refresh⟩
  · intro now time
    refine ⟨_, _, rfl, ?_, htidy.encard_expired time⟩
    intro use user id e
    exact r.expiry?_sweep_eq_some_iff

/-- A user stays as long as one of two ids is good. -/
example :
    let ada : UserId := ⟨List.replicate 32 1, List.length_replicate⟩
    let bob : UserId := ⟨List.replicate 32 2, List.length_replicate⟩
    let r := (({} : Registry).enroll false ada ⟨"a", 100, "b", 200⟩).enroll true bob
      ⟨"c", 100, "c", 100⟩
    r.userCount = 2 ∧ r.sweptUsers 100 = 0 ∧ r.sweptUsers 101 = 1 ∧ r.sweptUsers 201 = 2 := by
  decide

end SweptSessions

end PlayerHub
