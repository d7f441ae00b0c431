import PlayerHub.Proofs.Session.Run

namespace PlayerHub

namespace OpenedSession

/-- Whether a text is one of the tokens of a session. -/
def HasToken (o : OpenedSession) (token : String) : Prop :=
  token = o.token ∨ token = o.refreshToken

instance (o : OpenedSession) (token : String) : Decidable (o.HasToken token) :=
  inferInstanceAs (Decidable (_ ∨ _))

/-- Whether a session is one that some settings make. -/
def IsMade (o : OpenedSession) : Prop :=
  ∃ settings now fresh user username, o = Sessions.make settings now fresh user username

/-- Both tokens of a session name it, under any key. -/
theorem IsMade.of_check {o : OpenedSession} (hmade : o.IsMade) {token : String}
    (htoken : o.HasToken token) {key : String} {now : Int64} {c : Claims}
    (hcheck : Token.check key now token = .ok c) : c.user = o.user ∧ c.session = o.session := by
  have hclaims := Token.claims?_of_check hcheck
  obtain ⟨settings, issued, fresh, user, username, rfl⟩ := hmade
  obtain haccess | hrefresh := htoken
  · rw [haccess, Sessions.claims?_token_make] at hclaims
    cases hclaims
    exact ⟨rfl, rfl⟩
  · rw [hrefresh, Sessions.claims?_refreshToken_make] at hclaims
    cases hclaims
    exact ⟨rfl, rfl⟩

end OpenedSession

/-- Whether a step renews a session with one of its tokens. -/
def SessionStep.renews (st : SessionStep) (s : Sessions) (o : OpenedSession) : Bool :=
  match st.call with
  | .refresh _ token => decide (o.HasToken token) && (st.opened? s).isSome
  | _ => false

namespace Sessions

/-- How often a session is renewed in a run. -/
def renewals (s : Sessions) (o : OpenedSession) : List SessionStep → Nat
  | [] => 0
  | st :: steps => (st.renews s o).toNat + (st.next s).renewals o steps

variable {s : Sessions} {st : SessionStep} {steps : List SessionStep}
  {past : List OpenedSession} {o : OpenedSession}

/-- A step that renews a session shows a token of it that passes the checks of a refresh. -/
theorem renewable_of_renews (hmade : o.IsMade) (hrenews : st.renews s o = true) :
    ∃ fresh token c, st.call = .refresh fresh token ∧ s.renewable? st.now token = some c ∧
      c.user = o.user ∧ c.session = o.session := by
  obtain ⟨now, call⟩ := st
  cases call with
  | refresh fresh token =>
    rw [SessionStep.renews, Bool.and_eq_true, decide_eq_true_eq] at hrenews
    obtain ⟨htoken, hopened⟩ := hrenews
    cases hrenew : s.renewable? now token with
    | none =>
      rw [SessionStep.opened?_refresh_of_not_renewable hrenew] at hopened
      cases hopened
    | some c =>
      obtain ⟨hcheck, -⟩ := renewable?_eq_some_iff.1 hrenew
      exact ⟨fresh, token, c, rfl, hrenew, hmade.of_check htoken hcheck⟩
  | issue fresh user username single => cases hrenews
  | verify token => cases hrenews
  | logout user => cases hrenews
  | ban users => cases hrenews
  | sweep time => cases hrenews
  | close => cases hrenews

/-- A session can be renewed only after it has been opened. -/
theorem Follows.mem_past_of_renews (hfollows : s.Follows past (st :: steps))
    (hmem : o ∈ past ++ s.opened (st :: steps)) (hmade : o.IsMade)
    (hrenews : st.renews s o = true) : o ∈ past := by
  obtain ⟨fresh, token, c, -, hrenew, -, hsession⟩ := renewable_of_renews hmade hrenews
  have hid := expiry?_of_renewable hrenew
  rw [hsession] at hid
  exact (hfollows.of_registered hmem hid).1

/-- A session is over once it has been renewed. -/
theorem Follows.expiry?_next_of_renews (hfollows : s.Follows past (st :: steps))
    (hmem : o ∈ past) (hmade : o.IsMade) (hrenews : st.renews s o = true) (use : TokenUse) :
    (st.next s).registry.expiry? use o.user o.session = none := by
  obtain ⟨fresh, token, c, hcall, hrenew, huser, hsession⟩ :=
    renewable_of_renews hmade hrenews
  have hfresh := hfollows.fresh hmem
  obtain ⟨now, call⟩ := st
  dsimp only at hcall
  subst hcall
  rw [← huser, ← hsession]
  rw [← hsession] at hfresh
  exact SessionStep.expiry?_next_of_renewable hfollows.gate hrenew hfresh use

/-- The tokens of a session that is over are refused, at any time. -/
theorem refused_of_over (hmade : o.IsMade) {token : String} (htoken : o.HasToken token)
    (hover : ∀ use, s.registry.expiry? use o.user o.session = none) (now : Int64) :
    (∀ c, s.verify now token ≠ .ok c) ∧ s.renewable? now token = none := by
  constructor
  · intro c hverify
    obtain ⟨hcheck, hvalid⟩ := verify_eq_ok_iff.1 hverify
    obtain ⟨huser, hsession⟩ := hmade.of_check htoken hcheck
    obtain ⟨hid, -⟩ := (Registry.isValidAccess_iff _).1 hvalid
    rw [huser, hsession, hover] at hid
    cases hid
  · rw [Option.eq_none_iff_forall_ne_some]
    intro c hrenew
    obtain ⟨hcheck, -⟩ := renewable?_eq_some_iff.1 hrenew
    obtain ⟨huser, hsession⟩ := hmade.of_check htoken hcheck
    have hid := expiry?_of_renewable hrenew
    rw [huser, hsession, hover] at hid
    cases hid

/-- A session of which no id is left is never renewed again, whatever the clock shows then. -/
theorem renewals_of_over (hfollows : s.Follows past steps) (hmem : o ∈ past)
    (hmade : o.IsMade) (hover : ∀ use, s.registry.expiry? use o.user o.session = none) :
    s.renewals o steps = 0 := by
  induction steps generalizing s past with
  | nil => rfl
  | cons st steps ih =>
    have hnot : st.renews s o = false := by
      rw [← Bool.not_eq_true]
      intro hrenews
      obtain ⟨fresh, token, c, -, hrenew, huser, hsession⟩ := renewable_of_renews hmade hrenews
      have hid := expiry?_of_renewable hrenew
      rw [huser, hsession, hover] at hid
      cases hid
    have hnext : ∀ use, (st.next s).registry.expiry? use o.user o.session = none :=
      fun use => hfollows.expiry?_next_of_none hmem (hover use)
    rw [renewals, hnot, ih hfollows.next (List.mem_append_left _ hmem) hnext]
    rfl

/-- The first renewal takes both ids of the session away, and no session that is opened later has
them. -/
theorem renewals_le_one (hfollows : s.Follows past steps) (hmem : o ∈ past ++ s.opened steps)
    (hmade : o.IsMade) : s.renewals o steps ≤ 1 := by
  induction steps generalizing s past with
  | nil => exact Nat.zero_le 1
  | cons st steps ih =>
    rw [renewals]
    cases hrenews : st.renews s o with
    | false =>
      rw [opened, ← List.append_assoc] at hmem
      have hrest := ih hfollows.next hmem
      rw [Bool.toNat_false]
      omega
    | true =>
      have hpast := hfollows.mem_past_of_renews hmem hmade hrenews
      have hover := hfollows.expiry?_next_of_renews hpast hmade hrenews
      rw [renewals_of_over hfollows.next (List.mem_append_left _ hpast) hmade hover]
      exact Nat.le_refl 1

/-- In a whole run a session is renewed once at most. When that has happened, both of its tokens
are refused for good, as access tokens and as refresh tokens, wherever the clock goes. -/
theorem renewed_once_and_refused {settings : SessionSettings} {steps : List SessionStep}
    {o : OpenedSession} (hids : (((start settings).opened steps).map (·.session)).Nodup)
    (hmem : o ∈ (start settings).opened steps) :
    (start settings).renewals o steps ≤ 1 ∧
      ∀ before st after rest, steps = before ++ st :: (after ++ rest) →
        st.renews ((start settings).run before) o = true →
        ∀ token, o.HasToken token → ∀ now,
          let s := (start settings).run (before ++ st :: after)
          (∃ e, s.verify now token = .error e) ∧
            ∀ fresh, ∃ e, (refresh now fresh token).perform s = (.error e, s) := by
  obtain ⟨issued, fresh, user, username, hmake⟩ := eq_make_of_mem_opened rfl hmem
  have hmade : o.IsMade := ⟨_, issued, fresh, user, username, hmake⟩
  have hfollows := follows_start hids
  refine ⟨renewals_le_one hfollows hmem hmade, ?_⟩
  intro before st after rest hsteps hrenews token htoken now s
  subst hsteps
  have hat := hfollows.run
  have hmem' : o ∈ [] ++ (start settings).opened before ++
      ((start settings).run before).opened (st :: (after ++ rest)) := by
    rw [List.nil_append, ← opened_append]
    exact hmem
  have hpast := hat.mem_past_of_renews hmem' hmade hrenews
  have hover : ∀ use, s.registry.expiry? use o.user o.session = none := by
    intro use
    have hnext := hat.expiry?_next_of_renews hpast hmade hrenews use
    have hlast := expiry?_run_of_none hat.next.of_append (List.mem_append_left _ hpast) hnext
    have hrun : s = (st.next ((start settings).run before)).run after := run_append _ _
    rw [hrun]
    exact hlast
  obtain ⟨hverify, hrenew⟩ := refused_of_over hmade htoken hover now
  refine ⟨?_, fun fresh => perform_refresh_of_not_renewable hrenew fresh⟩
  cases hanswer : s.verify now token with
  | error e => exact ⟨e, rfl⟩
  | ok c => exact absurd hanswer (hverify c)

/-- Also a clock that goes back does not bring a session back that has been renewed. -/
theorem refused_at_earlier_clock :
    let ada : UserId := ⟨List.replicate 32 1, List.length_replicate⟩
    let o := make {} 100 "a" ada "ada"
    let s := (start {}).run [⟨100, .issue "a" ada "ada" false⟩, ⟨200, .refresh "b" o.refreshToken⟩]
    (∃ e, s.verify 150 o.token = .error e) ∧
      ∃ e, (refresh 150 "c" o.refreshToken).perform s = (.error e, s) := by
  intro ada o s
  let first : SessionStep := ⟨100, .issue "a" ada "ada" false⟩
  let second : SessionStep := ⟨200, .refresh "b" o.refreshToken⟩
  have hfirst : first.opened? (start {}) = some o := rfl
  have hrenew : (first.next (start {})).renewable? 200 o.refreshToken =
      some ⟨"a", ada, "ada", 100, 2592100⟩ :=
    renewable?_token_make rfl (by decide) (by decide) (by decide)
  have hsecond : second.opened? (first.next (start {})) = some (make {} 200 "b" ada "ada") :=
    SessionStep.opened?_refresh_eq_issue rfl hrenew "b"
  have hopened : (start {}).opened [first, second] = [o, make {} 200 "b" ada "ada"] := by
    simp only [opened, hfirst, hsecond, Option.toList_some, List.append_nil, List.singleton_append]
  have hids : (((start {}).opened [first, second]).map (·.session)).Nodup := by
    rw [hopened]
    decide
  have hmem : o ∈ (start {}).opened [first, second] := by
    rw [hopened]
    exact List.mem_cons_self
  have hrenews : second.renews ((start {}).run [first]) o = true := by
    have hboth : second.renews (first.next (start {})) o =
        (decide (o.HasToken o.refreshToken) && (second.opened? (first.next (start {}))).isSome) :=
      rfl
    have htoken : decide (o.HasToken o.refreshToken) = true := decide_eq_true (.inr rfl)
    exact hboth.trans (by rw [hsecond, htoken, Option.isSome_some, Bool.and_true])
  obtain ⟨-, hrefused⟩ := renewed_once_and_refused hids hmem
  have hover := hrefused [first] second [] [] rfl hrenews
  exact ⟨(hover o.token (.inl rfl) 150).1, (hover o.refreshToken (.inr rfl) 150).2 "c"⟩

end Sessions

end PlayerHub
