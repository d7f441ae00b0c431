import PlayerHub.Proofs.Session.Basic

namespace PlayerHub

/-- A call of the sessions. -/
inductive SessionCall where
  | issue (fresh : String) (user : UserId) (username : String) (single : Bool)
  | refresh (fresh : String) (token : String)
  | verify (token : String)
  | logout (user : UserId)
  | ban (users : List UserId)
  | sweep (time : Int64)
  | close
deriving DecidableEq, Repr

/-- The answer to a call. -/
inductive SessionAnswer where
  | opened (o : OpenedSession)
  | verified (c : Claims)
  | swept (users : Nat)
  | done
  | failed (e : SessionError)
deriving DecidableEq, Repr

/-- The answer with a result. -/
def SessionAnswer.ofResult {α : Type} (answer : α → SessionAnswer) :
    Except SessionError α → SessionAnswer
  | .ok a => answer a
  | .error e => .failed e

/-- A call at a time. -/
structure SessionStep where
  now : Int64
  call : SessionCall
deriving DecidableEq, Repr

namespace SessionStep

open Sessions

/-- The answer to a call, and the sessions after it. -/
def perform (st : SessionStep) (s : Sessions) : SessionAnswer × Sessions :=
  match st.call with
  | .issue fresh user username single =>
    ((issue st.now fresh user username single).perform s).map (.ofResult .opened) id
  | .refresh fresh token => ((refresh st.now fresh token).perform s).map (.ofResult .opened) id
  | .verify token => (.ofResult .verified (s.verify st.now token), s)
  | .logout user => (.done, s.logout user)
  | .ban users => (.done, { s with registry := s.registry.ban users })
  | .sweep time =>
    (.swept (s.registry.sweptUsers time), { s with registry := s.registry.sweep time })
  | .close => (.done, { s with registry := s.registry.close })

/-- The answer to a call. -/
def answer (st : SessionStep) (s : Sessions) : SessionAnswer := (st.perform s).1

/-- The sessions after a call. -/
def next (st : SessionStep) (s : Sessions) : Sessions := (st.perform s).2

/-- The session that a call opens. -/
def opened? (st : SessionStep) (s : Sessions) : Option OpenedSession :=
  match st.answer s with
  | .opened o => some o
  | _ => none

end SessionStep

/-- Whether a step takes the session with the given id from its user. -/
def SessionStep.Evicts (st : SessionStep) (s : Sessions) (user : UserId) (id : String) : Prop :=
  match st.call with
  | .issue _ owner _ single => owner = user ∧ single = true ∧ (st.opened? s).isSome = true
  | .refresh _ token =>
    (∃ c, s.renewable? st.now token = some c ∧ c.session = id) ∨
      (s.settings.single = true ∧ ∃ o, st.opened? s = some o ∧ o.user = user)
  | .logout owner => owner = user
  | .ban users => user ∈ users
  | .verify _ => False
  | .sweep _ => False
  | .close => False

/-- Whether a step takes an id with the given expiry from its user. Other sessions may have the same
id, and a refresh takes that of its own token's user only. -/
def SessionStep.Removes (st : SessionStep) (s : Sessions) (user : UserId) (id : String)
    (expiry : Int64) : Prop :=
  match st.call with
  | .issue _ owner _ single => owner = user ∧ single = true ∧ (st.opened? s).isSome = true
  | .refresh _ token =>
    (∃ c, s.renewable? st.now token = some c ∧ c.user = user ∧ c.session = id) ∨
      (s.settings.single = true ∧ ∃ o, st.opened? s = some o ∧ o.user = user)
  | .logout owner => owner = user
  | .ban users => user ∈ users
  | .sweep time => expiry < time
  | .verify _ => False
  | .close => False

/-- The name of the user in the tokens that a call makes. -/
def SessionCall.username? : SessionCall → Option String
  | .issue _ _ username _ => some username
  | .refresh _ token => (Token.claims? token).map (·.username)
  | _ => none

namespace SessionStep

open Sessions

variable {s : Sessions} {st : SessionStep} {now : Int64}

theorem opened?_issue (hgate : s.gate = {}) (fresh : String) (user : UserId)
    (username : String) (single : Bool) :
    (⟨now, .issue fresh user username single⟩ : SessionStep).opened? s =
      if s.registry.closed then none else some (make s.settings now fresh user username) := by
  simp only [opened?, answer, perform, perform_issue hgate]
  split
  · rename_i o hanswer
    split at hanswer
    · cases hanswer
    · rename_i hclosed
      cases hanswer
      rw [if_neg hclosed]
  · rename_i hanswer
    split at hanswer
    · rename_i hclosed
      rw [if_pos hclosed]
    · exact absurd rfl (hanswer _)

theorem next_issue (hgate : s.gate = {}) (fresh : String) (user : UserId)
    (username : String) (single : Bool) :
    (⟨now, .issue fresh user username single⟩ : SessionStep).next s =
      if s.registry.closed then s
      else s.enroll single (make s.settings now fresh user username) := by
  simp only [next, perform, perform_issue hgate]
  split
  · rfl
  · rfl

/-- Renewing a session is opening one where the session that is renewed is gone. -/
theorem perform_refresh_eq_issue (hgate : s.gate = {}) {token : String} {c : Claims}
    (hrenew : s.renewable? now token = some c) (fresh : String) :
    (⟨now, .refresh fresh token⟩ : SessionStep).perform s =
      (⟨now, .issue fresh c.user c.username s.settings.single⟩ : SessionStep).perform
        (s.without c) := by
  simp only [perform, perform_refresh_of_renewable hgate hrenew]

theorem opened?_refresh_eq_issue (hgate : s.gate = {}) {token : String} {c : Claims}
    (hrenew : s.renewable? now token = some c) (fresh : String) :
    (⟨now, .refresh fresh token⟩ : SessionStep).opened? s =
      (⟨now, .issue fresh c.user c.username s.settings.single⟩ : SessionStep).opened?
        (s.without c) := by
  simp only [opened?, answer, perform_refresh_eq_issue hgate hrenew]

theorem next_refresh_eq_issue (hgate : s.gate = {}) {token : String} {c : Claims}
    (hrenew : s.renewable? now token = some c) (fresh : String) :
    (⟨now, .refresh fresh token⟩ : SessionStep).next s =
      (⟨now, .issue fresh c.user c.username s.settings.single⟩ : SessionStep).next
        (s.without c) := by
  simp only [next, perform_refresh_eq_issue hgate hrenew]

theorem opened?_refresh_of_not_renewable {token : String}
    (hrenew : s.renewable? now token = none) (fresh : String) :
    (⟨now, .refresh fresh token⟩ : SessionStep).opened? s = none := by
  obtain ⟨e, hperform⟩ := perform_refresh_of_not_renewable hrenew fresh
  simp only [opened?, answer, perform, hperform]
  rfl

theorem next_refresh_of_not_renewable {token : String}
    (hrenew : s.renewable? now token = none) (fresh : String) :
    (⟨now, .refresh fresh token⟩ : SessionStep).next s = s := by
  obtain ⟨e, hperform⟩ := perform_refresh_of_not_renewable hrenew fresh
  simp only [next, perform, hperform]
  rfl

theorem opened?_verify (token : String) :
    (⟨now, .verify token⟩ : SessionStep).opened? s = none := by
  simp only [opened?, answer, perform]
  cases s.verify now token with
  | error e => rfl
  | ok c => rfl

/-- A session is opened from the settings, at the time of the call. -/
theorem opened?_eq_make (hgate : s.gate = {}) {o : OpenedSession}
    (hopened : st.opened? s = some o) :
    ∃ fresh user username, o = make s.settings st.now fresh user username ∧
      st.call.username? = some username := by
  obtain ⟨now, call⟩ := st
  cases call with
  | issue fresh user username single =>
    rw [opened?_issue hgate] at hopened
    split at hopened
    · cases hopened
    · cases hopened
      exact ⟨fresh, user, username, rfl, rfl⟩
  | refresh fresh token =>
    cases hrenew : s.renewable? now token with
    | none =>
      rw [opened?_refresh_of_not_renewable hrenew] at hopened
      cases hopened
    | some c =>
      rw [opened?_refresh_eq_issue hgate hrenew,
        opened?_issue (s := s.without c) hgate] at hopened
      split at hopened
      · cases hopened
      · cases hopened
        obtain ⟨hcheck, -⟩ := renewable?_eq_some_iff.1 hrenew
        refine ⟨fresh, c.user, c.username, rfl, ?_⟩
        rw [SessionCall.username?, Token.claims?_of_check hcheck, Option.map_some]
  | verify token =>
    rw [opened?_verify] at hopened
    cases hopened
  | logout user => cases hopened
  | ban users => cases hopened
  | sweep time => cases hopened
  | close => cases hopened

private theorem kept_next_issue (hgate : s.gate = {}) (fresh : String) (user : UserId)
    (username : String) (single : Bool) :
    let s' := (⟨now, .issue fresh user username single⟩ : SessionStep).next s
    s'.settings = s.settings ∧ s'.gate = s.gate := by
  dsimp only
  rw [next_issue hgate]
  split
  · exact ⟨rfl, rfl⟩
  · exact ⟨rfl, rfl⟩

theorem kept_next (st : SessionStep) (hgate : s.gate = {}) :
    (st.next s).settings = s.settings ∧ (st.next s).gate = {} := by
  rw [← hgate]
  obtain ⟨now, call⟩ := st
  cases call with
  | issue fresh user username single => exact kept_next_issue hgate fresh user username single
  | refresh fresh token =>
    cases hrenew : s.renewable? now token with
    | none =>
      rw [next_refresh_of_not_renewable hrenew]
      exact ⟨rfl, rfl⟩
    | some c =>
      rw [next_refresh_eq_issue hgate hrenew]
      exact kept_next_issue (s := s.without c) hgate _ _ _ _
  | verify token => exact ⟨rfl, rfl⟩
  | logout user => exact ⟨rfl, rfl⟩
  | ban users => exact ⟨rfl, rfl⟩
  | sweep time => exact ⟨rfl, rfl⟩
  | close => exact ⟨rfl, rfl⟩

variable {use : TokenUse} {user : UserId} {id : String} {e : Int64}

private theorem next_issue_of_opened (hgate : s.gate = {}) {fresh : String} {owner : UserId}
    {username : String} {single : Bool} {o : OpenedSession}
    (hopened : (⟨now, .issue fresh owner username single⟩ : SessionStep).opened? s = some o) :
    o.user = owner ∧
      (⟨now, .issue fresh owner username single⟩ : SessionStep).next s = s.enroll single o := by
  rw [opened?_issue hgate] at hopened
  rw [next_issue hgate]
  split at hopened
  · cases hopened
  · rename_i hclosed
    cases hopened
    exact ⟨rfl, if_neg hclosed⟩

private theorem next_issue_of_refused (hgate : s.gate = {}) {fresh : String} {owner : UserId}
    {username : String} {single : Bool}
    (hopened : (⟨now, .issue fresh owner username single⟩ : SessionStep).opened? s = none) :
    (⟨now, .issue fresh owner username single⟩ : SessionStep).next s = s := by
  rw [opened?_issue hgate] at hopened
  rw [next_issue hgate]
  split at hopened
  · rename_i hclosed
    exact if_pos hclosed
  · cases hopened

private theorem expiry?_of_next_issue (hgate : s.gate = {}) {fresh : String} {owner : UserId}
    {username : String} {single : Bool}
    (hid : ((⟨now, .issue fresh owner username single⟩ : SessionStep).next s).registry.expiry?
      use user id = some e) :
    (s.registry.expiry? use user id = some e ∧
      ∀ o, (⟨now, .issue fresh owner username single⟩ : SessionStep).opened? s = some o →
        o.user = user → single = false) ∨
      ∃ o, (⟨now, .issue fresh owner username single⟩ : SessionStep).opened? s = some o ∧
        o.user = user ∧ o.session = id ∧ o.expiry use = e := by
  cases hopened : (⟨now, .issue fresh owner username single⟩ : SessionStep).opened? s with
  | none =>
    rw [next_issue_of_refused hgate hopened] at hid
    refine .inl ⟨hid, ?_⟩
    intro o ho
    cases ho
  | some o =>
    obtain ⟨-, hnext⟩ := next_issue_of_opened hgate hopened
    rw [hnext, expiry?_enroll] at hid
    split at hid
    · rename_i howner
      subst howner
      split at hid
      · rename_i hsession
        exact .inr ⟨o, rfl, rfl, hsession.symm, Option.some.inj hid⟩
      · split at hid
        · cases hid
        · rename_i hsingle
          exact .inl ⟨hid, fun _ _ _ => (Bool.not_eq_true _).mp hsingle⟩
    · rename_i howner
      refine .inl ⟨hid, ?_⟩
      intro o' ho' huser
      cases ho'
      exact absurd huser.symm howner

/-- Every id that is registered after a step was so before it and is not removed by it, or belongs
to the session that the step has opened. -/
theorem kept_or_opened_of_next (hgate : s.gate = {})
    (hid : (st.next s).registry.expiry? use user id = some e) :
    (s.registry.expiry? use user id = some e ∧ ¬ st.Removes s user id e) ∨
      ∃ o, st.opened? s = some o ∧ o.user = user ∧ o.session = id ∧ o.expiry use = e := by
  obtain ⟨now, call⟩ := st
  cases call with
  | issue fresh owner username single =>
    obtain ⟨hbefore, hkept⟩ | hopened := expiry?_of_next_issue hgate hid
    · refine .inl ⟨hbefore, ?_⟩
      rintro ⟨howner, hsingle, hsome⟩
      obtain ⟨o, hopened⟩ := Option.isSome_iff_exists.1 hsome
      obtain ⟨huser, -⟩ := next_issue_of_opened hgate hopened
      exact Bool.false_ne_true ((hkept o hopened (huser.trans howner)).symm.trans hsingle)
    · exact .inr hopened
  | refresh fresh token =>
    cases hrenew : s.renewable? now token with
    | none =>
      rw [next_refresh_of_not_renewable hrenew] at hid
      refine .inl ⟨hid, ?_⟩
      rintro (⟨c, hc, -⟩ | ⟨-, o, hopened, -⟩)
      · cases hrenew.symm.trans hc
      · rw [opened?_refresh_of_not_renewable hrenew] at hopened
        cases hopened
    | some c =>
      have hopens := opened?_refresh_eq_issue hgate hrenew fresh
      rw [next_refresh_eq_issue hgate hrenew] at hid
      rw [hopens]
      obtain ⟨hbefore, hkept⟩ | hopened := expiry?_of_next_issue (s := s.without c) hgate hid
      · rw [expiry?_without] at hbefore
        split at hbefore
        · cases hbefore
        rename_i hother
        refine .inl ⟨hbefore, ?_⟩
        rintro (⟨c', hc, huser, hsession⟩ | ⟨hsingle, o, hopened, huser⟩)
        · cases hrenew.symm.trans hc
          exact hother ⟨huser.symm, hsession.symm⟩
        · have hplural := hkept o (hopens ▸ hopened) huser
          exact Bool.false_ne_true (hplural.symm.trans hsingle)
      · exact .inr hopened
  | verify token => exact .inl ⟨hid, fun h => h⟩
  | logout owner =>
    have hleft : (s.registry.removeAll owner).expiry? use user id = some e := hid
    rw [Registry.expiry?_removeAll] at hleft
    split at hleft
    · cases hleft
    · rename_i hother
      exact .inl ⟨hleft, fun howner => hother (Eq.symm howner)⟩
  | ban users =>
    have hleft : (s.registry.ban users).expiry? use user id = some e := hid
    rw [Registry.expiry?_ban] at hleft
    split at hleft
    · cases hleft
    · rename_i hother
      exact .inl ⟨hleft, hother⟩
  | sweep time =>
    have hleft : (s.registry.sweep time).expiry? use user id = some e := hid
    obtain ⟨hbefore, htime⟩ := (s.registry.expiry?_sweep_eq_some_iff).1 hleft
    exact .inl ⟨hbefore, Int64.not_lt.2 htime⟩
  | close => exact .inl ⟨hid, fun h => h⟩

/-- Every id that is registered after a step was so before it, or belongs to the session that the
step has opened. -/
theorem expiry?_of_next (hgate : s.gate = {})
    (hid : (st.next s).registry.expiry? use user id = some e) :
    s.registry.expiry? use user id = some e ∨
      ∃ o, st.opened? s = some o ∧ o.user = user ∧ o.session = id ∧ o.expiry use = e :=
  (kept_or_opened_of_next hgate hid).imp_left And.left

/-- The session that a step opens is registered after it. -/
theorem expiry?_next_of_opened (hgate : s.gate = {}) {o : OpenedSession}
    (hopened : st.opened? s = some o) (use : TokenUse) :
    (st.next s).registry.expiry? use o.user o.session = some (o.expiry use) := by
  obtain ⟨now, call⟩ := st
  cases call with
  | issue fresh owner username single =>
    obtain ⟨-, hnext⟩ := next_issue_of_opened hgate hopened
    rw [hnext, expiry?_enroll, if_pos rfl, if_pos rfl]
  | refresh fresh token =>
    cases hrenew : s.renewable? now token with
    | none =>
      rw [opened?_refresh_of_not_renewable hrenew] at hopened
      cases hopened
    | some c =>
      rw [opened?_refresh_eq_issue hgate hrenew] at hopened
      obtain ⟨-, hnext⟩ := next_issue_of_opened (s := s.without c) hgate hopened
      rw [next_refresh_eq_issue hgate hrenew, hnext, expiry?_enroll, if_pos rfl, if_pos rfl]
  | verify token =>
    rw [opened?_verify] at hopened
    cases hopened
  | logout owner => cases hopened
  | ban users => cases hopened
  | sweep time => cases hopened
  | close => cases hopened

private theorem expiry?_next_issue_of_single (hgate : s.gate = {}) {fresh : String}
    {owner : UserId} {username : String} {o : OpenedSession}
    (hopened : (⟨now, .issue fresh owner username true⟩ : SessionStep).opened? s = some o)
    (hfresh : o.session ≠ id) (use : TokenUse) :
    ((⟨now, .issue fresh owner username true⟩ : SessionStep).next s).registry.expiry?
      use o.user id = none := by
  obtain ⟨-, hnext⟩ := next_issue_of_opened hgate hopened
  rw [hnext, expiry?_enroll, if_pos rfl, if_neg (Ne.symm hfresh), if_pos rfl]

/-- A session that is renewed is gone, whether or not another one can be opened. -/
theorem expiry?_next_of_renewable (hgate : s.gate = {}) {fresh token : String} {c : Claims}
    (hrenew : s.renewable? now token = some c)
    (hfresh : ∀ o, (⟨now, .refresh fresh token⟩ : SessionStep).opened? s = some o →
      o.session ≠ c.session) (use : TokenUse) :
    ((⟨now, .refresh fresh token⟩ : SessionStep).next s).registry.expiry?
      use c.user c.session = none := by
  rw [next_refresh_eq_issue hgate hrenew]
  rw [opened?_refresh_eq_issue hgate hrenew] at hfresh
  rw [Option.eq_none_iff_forall_ne_some]
  intro e hid
  obtain ⟨hbefore, -⟩ | ⟨o, hopened, -, hsession, -⟩ :=
    expiry?_of_next_issue (s := s.without c) hgate hid
  · rw [expiry?_without, if_pos ⟨rfl, rfl⟩] at hbefore
    cases hbefore
  · exact hfresh o hopened hsession

/-- A step that takes a session from its user leaves neither of its ids. The id may be found in a
refresh token of its own user only, and the session that the step opens has another one. -/
theorem expiry?_next_of_evicts (hgate : s.gate = {}) (hevicts : st.Evicts s user id)
    (howner : ∀ owner e, s.registry.expiry? .refresh owner id = some e → owner = user)
    (hfresh : ∀ o, st.opened? s = some o → o.session ≠ id) (use : TokenUse) :
    (st.next s).registry.expiry? use user id = none := by
  obtain ⟨now, call⟩ := st
  cases call with
  | issue fresh owner username single =>
    obtain ⟨hsame, hsingle, hsome⟩ := hevicts
    subst hsame hsingle
    obtain ⟨o, hopened⟩ := Option.isSome_iff_exists.1 hsome
    obtain ⟨huser, -⟩ := next_issue_of_opened hgate hopened
    rw [← huser]
    exact expiry?_next_issue_of_single hgate (huser ▸ hopened) (hfresh o hopened) use
  | refresh fresh token =>
    cases hrenew : s.renewable? now token with
    | none =>
      obtain ⟨c, hc, -⟩ | ⟨-, o, hopened, -⟩ := hevicts
      · cases hrenew.symm.trans hc
      · rw [opened?_refresh_of_not_renewable hrenew] at hopened
        cases hopened
    | some c =>
      obtain ⟨c', hc, hsession⟩ | ⟨hsingle, o, hopened, huser⟩ := hevicts
      · cases hrenew.symm.trans hc
        subst hsession
        have hsame : c.user = user := howner _ _ (expiry?_of_renewable hrenew)
        subst hsame
        exact expiry?_next_of_renewable hgate hrenew hfresh use
      · have hother : o.session ≠ id := hfresh o hopened
        rw [opened?_refresh_eq_issue hgate hrenew, hsingle] at hopened
        rw [next_refresh_eq_issue hgate hrenew, hsingle, ← huser]
        exact expiry?_next_issue_of_single (s := s.without c) hgate hopened hother use
  | verify token => cases hevicts
  | logout owner =>
    have hsame : owner = user := hevicts
    have hnext : (s.registry.removeAll owner).expiry? use user id = none := by
      rw [Registry.expiry?_removeAll, if_pos hsame.symm]
    exact hnext
  | ban users =>
    have hmem : user ∈ users := hevicts
    have hnext : (s.registry.ban users).expiry? use user id = none := by
      rw [Registry.expiry?_ban, if_pos hmem]
    exact hnext
  | sweep time => cases hevicts
  | close => cases hevicts

private theorem expiry?_next_issue_of_kept (hgate : s.gate = {}) {fresh : String}
    {owner : UserId} {username : String} {single : Bool} {use : TokenUse}
    (hkept : ∀ o, (⟨now, .issue fresh owner username single⟩ : SessionStep).opened? s = some o →
      o.session ≠ id ∧ (o.user = user → single = false)) :
    ((⟨now, .issue fresh owner username single⟩ : SessionStep).next s).registry.expiry?
      use user id = s.registry.expiry? use user id := by
  cases hopened : (⟨now, .issue fresh owner username single⟩ : SessionStep).opened? s with
  | none => rw [next_issue_of_refused hgate hopened]
  | some o =>
    obtain ⟨-, hnext⟩ := next_issue_of_opened hgate hopened
    obtain ⟨hfresh, hsingle⟩ := hkept o hopened
    rw [hnext, expiry?_enroll]
    split
    · rename_i huser
      rw [if_neg (Ne.symm hfresh), hsingle huser.symm, if_neg Bool.false_ne_true, huser]
    · rfl

/-- A step that does not take a session from its user leaves its ids as they are, but for a sweep
that comes after their expiry. -/
theorem expiry?_next_of_not_evicts (hgate : s.gate = {}) (hevicts : ¬ st.Evicts s user id)
    (hfresh : ∀ o, st.opened? s = some o → o.session ≠ id)
    (hsweep : ∀ time, st.call = .sweep time → time ≤ e)
    (hid : s.registry.expiry? use user id = some e) :
    (st.next s).registry.expiry? use user id = some e := by
  obtain ⟨now, call⟩ := st
  cases call with
  | issue fresh owner username single =>
    have hkept : ∀ o,
        (⟨now, .issue fresh owner username single⟩ : SessionStep).opened? s = some o →
        o.session ≠ id ∧ (o.user = user → single = false) := by
      intro o hopened
      obtain ⟨howner, -⟩ := next_issue_of_opened hgate hopened
      refine ⟨hfresh o hopened, ?_⟩
      intro huser
      rw [← Bool.not_eq_true]
      intro hsingle
      exact hevicts ⟨howner.symm.trans huser, hsingle, Option.isSome_of_eq_some hopened⟩
    rw [expiry?_next_issue_of_kept hgate hkept, hid]
  | refresh fresh token =>
    cases hrenew : s.renewable? now token with
    | none => rw [next_refresh_of_not_renewable hrenew, hid]
    | some c =>
      have hopens := opened?_refresh_eq_issue hgate hrenew fresh
      have hother : ¬ (user = c.user ∧ id = c.session) := by
        rintro ⟨-, rfl⟩
        exact hevicts (.inl ⟨c, hrenew, rfl⟩)
      have hkept : ∀ o, (⟨now, .issue fresh c.user c.username s.settings.single⟩ :
          SessionStep).opened? (s.without c) = some o →
          o.session ≠ id ∧ (o.user = user → s.settings.single = false) := by
        intro o hopened
        rw [← hopens] at hopened
        refine ⟨hfresh o hopened, ?_⟩
        intro huser
        rw [← Bool.not_eq_true]
        intro hsingle
        exact hevicts (.inr ⟨hsingle, o, hopened, huser⟩)
      rw [next_refresh_eq_issue hgate hrenew,
        expiry?_next_issue_of_kept (s := s.without c) hgate hkept, expiry?_without,
        if_neg hother, hid]
  | verify token => exact hid
  | logout owner =>
    have hother : ¬ user = owner := fun hsame => hevicts hsame.symm
    have hnext : (s.registry.removeAll owner).expiry? use user id = some e := by
      rw [Registry.expiry?_removeAll, if_neg hother, hid]
    exact hnext
  | ban users =>
    have hother : user ∉ users := hevicts
    have hnext : (s.registry.ban users).expiry? use user id = some e := by
      rw [Registry.expiry?_ban, if_neg hother, hid]
    exact hnext
  | sweep time =>
    have htime : time ≤ e := hsweep time rfl
    exact (s.registry.expiry?_sweep_eq_some_iff).2 ⟨hid, htime⟩
  | close => exact hid

end SessionStep

end PlayerHub
