import Mathlib.Data.List.Nodup
import PlayerHub.Proofs.Session.Step

namespace PlayerHub

namespace Sessions

/-- The sessions before the first call. -/
def start (settings : SessionSettings) : Sessions := { settings }

/-- The sessions after a run. -/
def run (s : Sessions) : List SessionStep → Sessions
  | [] => s
  | st :: steps => (st.next s).run steps

/-- The sessions that are opened in a run. -/
def opened (s : Sessions) : List SessionStep → List OpenedSession
  | [] => []
  | st :: steps => (st.opened? s).toList ++ (st.next s).opened steps

/-- Whether some step of a run takes the session with the given id from its user. -/
def EvictedIn (s : Sessions) (user : UserId) (id : String) : List SessionStep → Prop
  | [] => False
  | st :: steps => st.Evicts s user id ∨ (st.next s).EvictedIn user id steps

variable {s : Sessions} {st : SessionStep} {steps : List SessionStep}

theorem run_append (before after : List SessionStep) :
    s.run (before ++ after) = (s.run before).run after := by
  induction before generalizing s with
  | nil => rfl
  | cons st before ih => exact ih

theorem opened_append (before after : List SessionStep) :
    s.opened (before ++ after) = s.opened before ++ (s.run before).opened after := by
  induction before generalizing s with
  | nil => rfl
  | cons st before ih => rw [List.cons_append, opened, ih, opened, List.append_assoc, run]

theorem kept_run (hgate : s.gate = {}) :
    (s.run steps).settings = s.settings ∧ (s.run steps).gate = {} := by
  induction steps generalizing s with
  | nil => exact ⟨rfl, hgate⟩
  | cons st steps ih =>
    obtain ⟨hsettings, hnext⟩ := st.kept_next hgate
    obtain ⟨hrun, hlast⟩ := ih hnext
    exact ⟨hrun.trans hsettings, hlast⟩

/-- Every session of a run is made from its settings. -/
theorem eq_make_of_mem_opened (hgate : s.gate = {}) {o : OpenedSession}
    (hmem : o ∈ s.opened steps) :
    ∃ now fresh user username, o = make s.settings now fresh user username := by
  induction steps generalizing s with
  | nil => cases hmem
  | cons st steps ih =>
    rw [opened, List.mem_append, Option.mem_toList] at hmem
    obtain ⟨hsettings, hnext⟩ := st.kept_next hgate
    obtain hhead | htail := hmem
    · obtain ⟨fresh, user, username, hmake, -⟩ := SessionStep.opened?_eq_make hgate hhead
      exact ⟨st.now, fresh, user, username, hmake⟩
    · obtain ⟨now, fresh, user, username, hmake⟩ := ih hnext htail
      exact ⟨now, fresh, user, username, hsettings ▸ hmake⟩

/-- What is known at a moment of a run: the sessions opened so far and those still to come have
distinct ids, and whatever is registered belongs to one that was opened. -/
structure Follows (s : Sessions) (past : List OpenedSession) (steps : List SessionStep) :
    Prop where
  gate : s.gate = {}
  accounted : ∀ use user id e, s.registry.expiry? use user id = some e →
    ∃ o ∈ past, o.user = user ∧ o.session = id ∧ o.expiry use = e
  distinct : ((past ++ s.opened steps).map (·.session)).Nodup

variable {past : List OpenedSession} {o : OpenedSession}

theorem follows_start {settings : SessionSettings}
    (hids : (((start settings).opened steps).map (·.session)).Nodup) :
    (start settings).Follows [] steps where
  gate := rfl
  accounted := by
    intro use user id e hid
    rw [start, Registry.expiry?_empty] at hid
    cases hid
  distinct := hids

theorem Follows.next (hfollows : s.Follows past (st :: steps)) :
    (st.next s).Follows (past ++ (st.opened? s).toList) steps where
  gate := (st.kept_next hfollows.gate).2
  accounted := by
    intro use user id e hid
    obtain hbefore | ⟨o, hopened, ho⟩ := SessionStep.expiry?_of_next hfollows.gate hid
    · obtain ⟨o, hmem, ho⟩ := hfollows.accounted use user id e hbefore
      exact ⟨o, List.mem_append_left _ hmem, ho⟩
    · exact ⟨o, List.mem_append_right _ (Option.mem_toList.2 hopened), ho⟩
  distinct := by
    have hdistinct := hfollows.distinct
    rw [opened, ← List.append_assoc] at hdistinct
    exact hdistinct

theorem Follows.run {before after : List SessionStep}
    (hfollows : s.Follows past (before ++ after)) :
    (s.run before).Follows (past ++ s.opened before) after := by
  induction before generalizing s past with
  | nil =>
    rw [opened, List.append_nil]
    exact hfollows
  | cons st before ih =>
    have hnext := ih hfollows.next
    rw [List.append_assoc] at hnext
    exact hnext

theorem Follows.of_append {before after : List SessionStep}
    (hfollows : s.Follows past (before ++ after)) : s.Follows past before where
  gate := hfollows.gate
  accounted := hfollows.accounted
  distinct := by
    have hdistinct := hfollows.distinct
    rw [opened_append, ← List.append_assoc, List.map_append] at hdistinct
    exact hdistinct.of_append_left

/-- A step opens no session with the id of an earlier one. -/
theorem Follows.fresh (hfollows : s.Follows past (st :: steps)) (hmem : o ∈ past) :
    ∀ o', st.opened? s = some o' → o'.session ≠ o.session := by
  intro o' hopened hsame
  have hdistinct := hfollows.distinct
  rw [List.map_append, List.nodup_append] at hdistinct
  obtain ⟨-, -, hdisjoint⟩ := hdistinct
  have hlater : o' ∈ s.opened (st :: steps) :=
    List.mem_append_left _ (Option.mem_toList.2 hopened)
  exact hdisjoint _ (List.mem_map_of_mem hmem) _ (List.mem_map_of_mem hlater) hsame.symm

/-- What is registered under the id of a session is registered for that session, which has been
opened. -/
theorem Follows.of_registered (hfollows : s.Follows past steps)
    (hmem : o ∈ past ++ s.opened steps) {use : TokenUse} {owner : UserId} {e : Int64}
    (hid : s.registry.expiry? use owner o.session = some e) :
    o ∈ past ∧ owner = o.user ∧ o.expiry use = e := by
  obtain ⟨o', hmem', huser, hsession, hexpiry⟩ := hfollows.accounted use owner o.session e hid
  obtain rfl : o' = o := List.inj_on_of_nodup_map hfollows.distinct
    (List.mem_append_left _ hmem') hmem hsession
  exact ⟨hmem', huser.symm, hexpiry⟩

/-- The id of a session is registered for its user only. -/
theorem Follows.owner (hfollows : s.Follows past steps) (hmem : o ∈ past) {use : TokenUse}
    {owner : UserId} {e : Int64} (hid : s.registry.expiry? use owner o.session = some e) :
    owner = o.user :=
  (hfollows.of_registered (List.mem_append_left _ hmem) hid).2.1

theorem Follows.expiry?_next_of_none {use : TokenUse}
    (hfollows : s.Follows past (st :: steps)) (hmem : o ∈ past)
    (hnone : s.registry.expiry? use o.user o.session = none) :
    (st.next s).registry.expiry? use o.user o.session = none := by
  rw [Option.eq_none_iff_forall_ne_some]
  intro e hid
  obtain hbefore | ⟨o', hopened, -, hsession, -⟩ := SessionStep.expiry?_of_next hfollows.gate hid
  · cases hnone.symm.trans hbefore
  · exact hfollows.fresh hmem o' hopened hsession

/-- A session that is over never comes back. -/
theorem expiry?_run_of_none {use : TokenUse} (hfollows : s.Follows past steps)
    (hmem : o ∈ past) (hnone : s.registry.expiry? use o.user o.session = none) :
    (s.run steps).registry.expiry? use o.user o.session = none := by
  induction steps generalizing s past with
  | nil => exact hnone
  | cons st steps ih =>
    have hnext := hfollows.expiry?_next_of_none hmem hnone
    exact ih hfollows.next (List.mem_append_left _ hmem) hnext

theorem expiry?_run_of_evictedIn (hfollows : s.Follows past steps) (hmem : o ∈ past)
    (hevicted : s.EvictedIn o.user o.session steps) (use : TokenUse) :
    (s.run steps).registry.expiry? use o.user o.session = none := by
  induction steps generalizing s past with
  | nil => cases hevicted
  | cons st steps ih =>
    have hmem' : o ∈ past ++ (st.opened? s).toList := List.mem_append_left _ hmem
    obtain hnow | hlater := hevicted
    · have hnext := SessionStep.expiry?_next_of_evicts hfollows.gate hnow
        (fun owner e hid => hfollows.owner hmem hid) (hfollows.fresh hmem) use
      have hrun := expiry?_run_of_none hfollows.next hmem' hnext
      exact hrun
    · exact ih hfollows.next hmem' hlater

theorem expiry?_run_of_not_evictedIn {use : TokenUse} {e : Int64}
    (hfollows : s.Follows past steps) (hmem : o ∈ past)
    (hevicted : ¬ s.EvictedIn o.user o.session steps)
    (hsweep : ∀ st ∈ steps, ∀ time, st.call = .sweep time → time ≤ e)
    (hid : s.registry.expiry? use o.user o.session = some e) :
    (s.run steps).registry.expiry? use o.user o.session = some e := by
  induction steps generalizing s past with
  | nil => exact hid
  | cons st steps ih =>
    have hnow : ¬ st.Evicts s o.user o.session := fun h => hevicted (.inl h)
    have hlater : ¬ (st.next s).EvictedIn o.user o.session steps := fun h => hevicted (.inr h)
    have hnext := SessionStep.expiry?_next_of_not_evicts hfollows.gate hnow
      (hfollows.fresh hmem) (hsweep st List.mem_cons_self) hid
    exact ih hfollows.next (List.mem_append_left _ hmem) hlater
      (fun st' hst' => hsweep st' (List.mem_cons_of_mem _ hst')) hnext

end Sessions

end PlayerHub
