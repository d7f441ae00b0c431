import PlayerHub.Proofs.Session.Step

namespace PlayerHub

namespace Registry

variable {r r' q q' : Registry} {now : Int64} {awaited : Claims → Prop}

/-- Whether the session that claims speak of keeps its refresh token in a sweep with the time
`time`, and its access token if that is all that is left of it. -/
def Outlasts (r : Registry) (c : Claims) (time : Int64) : Prop :=
  (∀ e, r.expiry? .refresh c.user c.session = some e → time ≤ e) ∧
    (r.expiry? .refresh c.user c.session = none →
      ∀ e, r.expiry? .access c.user c.session = some e → time ≤ e)

/-- Whether two registries have the session that claims speak of alike: with the same refresh token
or, if there is none, with the same access token. -/
structure InStep (c : Claims) (r r' : Registry) : Prop where
  refresh : r.expiry? .refresh c.user c.session = r'.expiry? .refresh c.user c.session
  access : r.expiry? .refresh c.user c.session = none →
    r.expiry? .access c.user c.session = r'.expiry? .access c.user c.session

/-- Whether two registries cannot be told apart from the time `now` on, neither by what is alive nor
by the removal of one of the sessions that are awaited to be removed. -/
structure AgreesFrom (now : Int64) (awaited : Claims → Prop) (r r' : Registry) : Prop where
  closed : r.closed = r'.closed
  alive : ∀ use user id e, now ≤ e →
    (r.expiry? use user id = some e ↔ r'.expiry? use user id = some e)
  inStep : ∀ c, awaited c → InStep c r r'

theorem AgreesFrom.mono (hagree : AgreesFrom now awaited r r') {later : Int64}
    (hlater : now ≤ later) : AgreesFrom later awaited r r' where
  closed := hagree.closed
  alive := fun use user id e he => hagree.alive use user id e (Int64.le_trans hlater he)
  inStep := hagree.inStep

/-- A session that is found alive may be awaited from then on. -/
theorem AgreesFrom.await (hagree : AgreesFrom now awaited r r') {awaited' : Claims → Prop}
    (h : ∀ c, awaited' c → awaited c ∨ r.isValidRefresh now c.user c.expiry c.session = true) :
    AgreesFrom now awaited' r r' where
  closed := hagree.closed
  alive := hagree.alive
  inStep := by
    intro c hc
    obtain hc | hvalid := h c hc
    · exact hagree.inStep c hc
    · obtain ⟨hid, htime⟩ := (r.isValidRefresh_iff).1 hvalid
      have hid' := (hagree.alive .refresh c.user c.session c.expiry htime).1 hid
      refine ⟨hid.trans hid'.symm, fun hnone => ?_⟩
      rw [hid] at hnone
      cases hnone

/-- Registries go on agreeing where every id is left as it is in both or gets the same expiry,
unless a session that is awaited loses its refresh token and not its access token. -/
theorem AgreesFrom.of_ids (hagree : AgreesFrom now awaited r r') (hclosed : q.closed = q'.closed)
    (hids : ∀ use user id, q.expiry? use user id = q'.expiry? use user id ∨
      q.expiry? use user id = r.expiry? use user id ∧
        q'.expiry? use user id = r'.expiry? use user id)
    (hawaited : ∀ c, awaited c → q.expiry? .refresh c.user c.session = none →
      r.expiry? .refresh c.user c.session = none ∨
        q.expiry? .access c.user c.session = q'.expiry? .access c.user c.session) :
    AgreesFrom now awaited q q' where
  closed := hclosed
  alive := by
    intro use user id e he
    obtain hsame | ⟨hkept, hkept'⟩ := hids use user id
    · rw [hsame]
    · rw [hkept, hkept']
      exact hagree.alive use user id e he
  inStep := by
    intro c hc
    have hstep := hagree.inStep c hc
    constructor
    · obtain hsame | ⟨hkept, hkept'⟩ := hids .refresh c.user c.session
      · exact hsame
      · rw [hkept, hkept', hstep.refresh]
    · intro hnone
      obtain hgone | hsame := hawaited c hc hnone
      · obtain hsame | ⟨hkept, hkept'⟩ := hids .access c.user c.session
        · exact hsame
        · rw [hkept, hkept', hstep.access hgone]
      · exact hsame

theorem AgreesFrom.removeAll (hagree : AgreesFrom now awaited r r') (user : UserId) :
    AgreesFrom now awaited (r.removeAll user) (r'.removeAll user) := by
  refine hagree.of_ids hagree.closed ?_ ?_
  · intro use owner id
    rw [expiry?_removeAll, expiry?_removeAll]
    split
    · exact .inl rfl
    · exact .inr ⟨rfl, rfl⟩
  · intro c _ hnone
    rw [expiry?_removeAll] at hnone
    rw [expiry?_removeAll, expiry?_removeAll]
    split at hnone
    · rename_i howner
      exact .inr (by rw [if_pos howner, if_pos howner])
    · exact .inl hnone

theorem AgreesFrom.ban (hagree : AgreesFrom now awaited r r') (users : List UserId) :
    AgreesFrom now awaited (r.ban users) (r'.ban users) := by
  induction users generalizing r r' with
  | nil => exact hagree
  | cons user users ih => exact ih (hagree.removeAll user)

/-- A removal may take an id that has been swept from one of the registries. That makes no
difference, unless the refresh token of a session that is awaited goes and its access token
stays. -/
theorem AgreesFrom.remove (hagree : AgreesFrom now awaited r r') (user : UserId)
    (access refresh : String)
    (hspares : ∀ c, awaited c → user = c.user → refresh = c.session → access = c.session) :
    AgreesFrom now awaited (r.remove user access refresh) (r'.remove user access refresh) := by
  refine hagree.of_ids ?_ ?_ ?_
  · rw [closed_remove, closed_remove, hagree.closed]
  · intro use owner id
    rw [expiry?_remove, expiry?_remove]
    split
    · exact .inl rfl
    · exact .inr ⟨rfl, rfl⟩
  · intro c hc hnone
    rw [expiry?_remove] at hnone
    split at hnone
    · rename_i htaken
      have haccess := hspares c hc htaken.1.symm htaken.2.symm
      have hboth : c.user = user ∧ c.session = TokenUse.access.of access refresh :=
        ⟨htaken.1, haccess.symm⟩
      exact .inr (by rw [expiry?_remove, expiry?_remove, if_pos hboth, if_pos hboth])
    · exact .inl hnone

/-- A session that is opened has the same ids in both registries from then on, whatever they had for
these ids before. -/
theorem AgreesFrom.enroll (hagree : AgreesFrom now awaited r r') (single : Bool) (user : UserId)
    (e : SessionEntry) :
    AgreesFrom now awaited (r.enroll single user e) (r'.enroll single user e) := by
  refine hagree.of_ids hagree.closed ?_ ?_
  · intro use owner id
    rw [expiry?_enroll, expiry?_enroll]
    by_cases howner : owner = user
    · subst howner
      rw [if_pos rfl, if_pos rfl]
      split
      · exact .inl rfl
      split
      · exact .inl rfl
      · exact .inr ⟨rfl, rfl⟩
    · rw [if_neg howner, if_neg howner]
      exact .inr ⟨rfl, rfl⟩
  · intro c _ hnone
    rw [expiry?_enroll] at hnone
    split at hnone
    · rename_i howner
      split at hnone
      · cases hnone
      split at hnone
      · rename_i hsingle
        exact .inr (by simp only [expiry?_enroll, if_pos howner, if_pos hsingle])
      · rw [← howner] at hnone
        exact .inl hnone
    · exact .inl hnone

theorem AgreesFrom.close (hagree : AgreesFrom now awaited r r') :
    AgreesFrom now awaited r.close r'.close where
  closed := rfl
  alive := hagree.alive
  inStep := fun c hc => ⟨(hagree.inStep c hc).refresh, (hagree.inStep c hc).access⟩

theorem AgreesFrom.isValidRefresh_eq (hagree : AgreesFrom now awaited r r') (user : UserId)
    (expiry : Int64) (id : String) :
    r.isValidRefresh now user expiry id = r'.isValidRefresh now user expiry id := by
  rw [Bool.eq_iff_iff, isValidRefresh_iff, isValidRefresh_iff]
  exact and_congr_left (hagree.alive .refresh user id expiry)

/-- The removal of a session that is awaited finds it in both registries or in neither. -/
theorem AgreesFrom.has_eq (hagree : AgreesFrom now awaited r r') {c : Claims} (hc : awaited c) :
    r.has c.user c.session c.session = r'.has c.user c.session c.session := by
  have hstep := hagree.inStep c hc
  rw [Bool.eq_iff_iff, has_iff, has_iff, ← hstep.refresh]
  cases hrefresh : r.expiry? .refresh c.user c.session with
  | none => rw [hstep.access hrefresh]
  | some e => exact iff_of_true (.inr ⟨e, rfl⟩) (.inr ⟨e, rfl⟩)

end Registry

namespace Sessions

variable {s s' : Sessions} {now : Int64} {awaited : Claims → Prop}

/-- Whether sessions cannot be told apart from the time `now` on, nor by the removal of one of those
that are awaited to be removed. -/
structure AgreesFrom (now : Int64) (awaited : Claims → Prop) (s s' : Sessions) : Prop where
  settings : s.settings = s'.settings
  gates : s.gate = {} ∧ s'.gate = {}
  registry : Registry.AgreesFrom now awaited s.registry s'.registry

theorem AgreesFrom.mono (hagree : AgreesFrom now awaited s s') {later : Int64}
    (hlater : now ≤ later) : AgreesFrom later awaited s s' :=
  ⟨hagree.settings, hagree.gates, hagree.registry.mono hlater⟩

theorem AgreesFrom.withRegistry (hagree : AgreesFrom now awaited s s') {awaited' : Claims → Prop}
    {r r' : Registry} (hregistry : Registry.AgreesFrom now awaited' r r') :
    AgreesFrom now awaited' { s with registry := r } { s' with registry := r' } :=
  ⟨hagree.settings, hagree.gates, hregistry⟩

/-- Whether two results are the same and leave sessions that agree. -/
def SameFrom {α : Type} (now : Int64) (awaited : Claims → Prop) (p p' : α × Sessions) : Prop :=
  p.1 = p'.1 ∧ p.2.AgreesFrom now awaited p'.2

theorem AgreesFrom.register (hagree : AgreesFrom now awaited s s') (single : Bool) (user : UserId)
    (e : SessionEntry) :
    SameFrom now awaited ((register single user e).perform s)
      ((register single user e).perform s') := by
  rw [perform_register hagree.gates.1, perform_register hagree.gates.2, hagree.registry.closed]
  split
  · exact ⟨rfl, hagree⟩
  · exact ⟨rfl, hagree.withRegistry (hagree.registry.enroll single user e)⟩

theorem AgreesFrom.issue (hagree : AgreesFrom now awaited s s') (time : Int64) (fresh : String)
    (user : UserId) (username : String) (single : Bool) :
    SameFrom now awaited ((issue time fresh user username single).perform s)
      ((issue time fresh user username single).perform s') := by
  rw [perform_issue hagree.gates.1, perform_issue hagree.gates.2, hagree.settings,
    hagree.registry.closed]
  split
  · exact ⟨rfl, hagree⟩
  · exact ⟨rfl, hagree.withRegistry (hagree.registry.enroll _ _ _)⟩

theorem AgreesFrom.approve_eq (hagree : AgreesFrom now awaited s s') (checked : Int64)
    (token : String) : s.approve checked now token = s'.approve checked now token := by
  have halive : s.registry.isValidRefresh now = s'.registry.isValidRefresh now := by
    funext user expiry id
    exact hagree.registry.isValidRefresh_eq user expiry id
  rw [approve, approve, hagree.settings, halive]

theorem AgreesFrom.without (hagree : AgreesFrom now awaited s s') (c : Claims) :
    AgreesFrom now awaited (s.without c) (s'.without c) :=
  hagree.withRegistry (hagree.registry.remove c.user c.session c.session fun _ _ _ h => h)

/-- A session that is awaited is removed from both or missed in both. -/
theorem AgreesFrom.retire (hagree : AgreesFrom now awaited s s') {c : Claims} (hc : awaited c) :
    SameFrom now awaited ((retire c).perform s) ((retire c).perform s') := by
  rw [perform_retire hagree.gates.1, perform_retire hagree.gates.2, hagree.registry.has_eq hc]
  exact ⟨rfl, hagree.without c⟩

theorem AgreesFrom.renew (hagree : AgreesFrom now awaited s s') (time : Int64) (fresh : String)
    (c : Claims) :
    SameFrom now awaited ((renew time fresh c).perform s) ((renew time fresh c).perform s') := by
  rw [perform_renew, perform_renew, hagree.settings]
  exact hagree.issue time fresh c.user c.username s'.settings.single

theorem AgreesFrom.refresh (hagree : AgreesFrom now awaited s s') (fresh token : String) :
    SameFrom now awaited ((refresh now fresh token).perform s)
      ((refresh now fresh token).perform s') := by
  cases happrove : s'.approve now now token with
  | error e =>
    have happrove' := (hagree.approve_eq now token).trans happrove
    rw [perform_refresh_of_approve_error happrove', perform_refresh_of_approve_error happrove]
    exact ⟨rfl, hagree⟩
  | ok c =>
    have hrenew := renewable?_eq_some_iff_approve.2 happrove
    have hrenew' : s.renewable? now token = some c :=
      renewable?_eq_some_iff_approve.2 ((hagree.approve_eq now token).trans happrove)
    rw [perform_refresh_of_renewable hagree.gates.1 hrenew',
      perform_refresh_of_renewable hagree.gates.2 hrenew, hagree.settings]
    exact (hagree.without c).issue now fresh c.user c.username s'.settings.single

end Sessions

end PlayerHub
