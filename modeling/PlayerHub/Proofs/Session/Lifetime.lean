import PlayerHub.Proofs.Session.Run

namespace PlayerHub

namespace SessionStep

/-- The clock never goes back in a run and not after it, and every sweep is made at the time that
the clock shows. -/
def Forward (steps : List SessionStep) (now : Int64) : Prop :=
  (steps.map (·.now) ++ [now]).Pairwise (· ≤ ·) ∧
    ∀ st ∈ steps, ∀ time, st.call = .sweep time → time = st.now

theorem Forward.sweep_le {before later : List SessionStep} {now : Int64}
    (hforward : Forward (before ++ later) now) {st : SessionStep} (hmem : st ∈ later)
    {time : Int64} (hsweep : st.call = .sweep time) : time ≤ now := by
  obtain ⟨hclock, hsweeps⟩ := hforward
  have hmem' : st ∈ before ++ later := List.mem_append_right _ hmem
  rw [hsweeps st hmem' time hsweep]
  rw [List.pairwise_append] at hclock
  exact hclock.2.2 st.now (List.mem_map_of_mem hmem') now List.mem_cons_self

end SessionStep

namespace Sessions

/-- The access token of a session is verified, with what it was opened for, up to its expiry and
until some step takes the session from its user. Whatever else happens in a run does not matter to
it. -/
theorem verify_opened_token {settings : SessionSettings} {before later : List SessionStep}
    {st : SessionStep} {o : OpenedSession} {now : Int64}
    (hforward : SessionStep.Forward (before ++ st :: later) now)
    (hids : (((start settings).opened (before ++ st :: later)).map (·.session)).Nodup)
    (hopened : st.opened? ((start settings).run before) = some o)
    (haccess : 0 ≤ o.accessExpiry) :
    let s := (start settings).run (before ++ st :: later)
    let evicted := ((start settings).run (before ++ [st])).EvictedIn o.user o.session later
    ∃ username, st.call.username? = some username ∧
      (o.accessExpiry < now → s.verify now o.token = .error .expired) ∧
      (now ≤ o.accessExpiry → ¬ evicted → s.verify now o.token =
        .ok ⟨o.session, o.user, username, o.issuedAt, o.accessExpiry⟩) ∧
      (now ≤ o.accessExpiry → evicted →
        s.verify now o.token = .error (.revoked o.user)) := by
  intro s evicted
  have hgate : ((start settings).run before).gate = {} := (kept_run rfl).2
  have hsettings : s.settings = ((start settings).run before).settings :=
    (kept_run rfl).1.trans (kept_run rfl).1.symm
  obtain ⟨fresh, user, username, hmake, husername⟩ := SessionStep.opened?_eq_make hgate hopened
  rw [← hsettings] at hmake
  have hverify : s.verify now o.token = _ := verify_token_make hmake haccess
  -- After the step that opened it, the session is registered and among those known.
  have hat : (start settings).run (before ++ [st]) = st.next ((start settings).run before) :=
    run_append before [st]
  have hrun : s = (st.next ((start settings).run before)).run later := by
    rw [← hat, ← run_append, List.append_assoc]
    rfl
  have hfollows := ((follows_start hids).run).next
  have hmem : o ∈ [] ++ (start settings).opened before ++
      (st.opened? ((start settings).run before)).toList :=
    List.mem_append_right _ (Option.mem_toList.2 hopened)
  have hid := SessionStep.expiry?_next_of_opened hgate hopened .access
  refine ⟨username, husername, ?_, ?_, ?_⟩
  · intro hexpired
    rw [hverify, if_pos hexpired]
  · intro htime hkept
    have hsweep : ∀ st' ∈ later, ∀ time, st'.call = .sweep time → time ≤ o.accessExpiry := by
      intro st' hst' time hcall
      have hle := hforward.sweep_le (List.mem_cons_of_mem st hst') hcall
      exact Int64.le_trans hle htime
    have hlast := expiry?_run_of_not_evictedIn hfollows hmem (hat ▸ hkept) hsweep hid
    rw [← hrun] at hlast
    rw [hverify, if_neg (Int64.not_lt.2 htime), if_pos hlast]
  · intro htime hgone
    have hlast := expiry?_run_of_evictedIn hfollows hmem (hat ▸ hgone) .access
    rw [← hrun] at hlast
    have hnot : ¬ s.registry.expiry? .access o.user o.session = some o.accessExpiry := by
      rw [hlast]
      intro hsome
      cases hsome
    rw [hverify, if_neg (Int64.not_lt.2 htime), if_neg hnot]

/-- A session outlives a logout of somebody else, another session of its user and a sweep in the
last second of its access token. -/
theorem verify_opened_token_to_last_second :
    let ada : UserId := ⟨List.replicate 32 1, List.length_replicate⟩
    let eve : UserId := ⟨List.replicate 32 2, List.length_replicate⟩
    let first : SessionStep := ⟨100, .issue "a" ada "ada" true⟩
    let later : List SessionStep :=
      [⟨200, .logout eve⟩, ⟨300, .issue "b" ada "ada" false⟩, ⟨3700, .sweep 3700⟩]
    ((start {}).run (first :: later)).verify 3700 (make {} 100 "a" ada "ada").token =
      .ok ⟨"a", ada, "ada", 100, 3700⟩ := by
  intro ada eve first later
  have hforward : SessionStep.Forward ([] ++ first :: later) 3700 := by
    refine ⟨by decide, ?_⟩
    simp [first, later]
  have hids : (((start {}).opened ([] ++ first :: later)).map (·.session)).Nodup := by
    decide
  have hopened : first.opened? ((start {}).run []) = some (make {} 100 "a" ada "ada") := rfl
  have hkept : ¬ ((start {}).run ([] ++ [first])).EvictedIn ada "a" later := by
    simp [later, EvictedIn, SessionStep.Evicts, ada, eve]
  obtain ⟨username, husername, -, halive, -⟩ :=
    verify_opened_token hforward hids hopened (by decide)
  cases husername
  exact halive (by decide) hkept

end Sessions

end PlayerHub
