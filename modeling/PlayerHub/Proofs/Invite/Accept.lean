import PlayerHub.Invite.Accept
import PlayerHub.Proofs.Invite.Basic
import PlayerHub.Proofs.Player.Action

namespace PlayerHub.Invites

/-- What an attempt to accept an invite has found out by the time that it writes. -/
structure Acceptable (directory : Directory) (user : UserId) (username share : String)
    (s : Storage) (inviter : Account) (mine theirs : Invites) : Prop where
  look_mine : s.look Invites user = .ok mine
  not_invited : mine.invited = false
  share_ne : share ≠ username
  named : directory.named? share = some inviter
  user_ne : inviter.user ≠ user
  look_theirs : s.look Invites inviter.user = .ok theirs

/-- Writing the inviter's document leaves the player's own as it was found. -/
theorem Acceptable.look_mine_keep {directory : Directory} {user : UserId} {username share : String}
    {s : Storage} {inviter : Account} {mine theirs : Invites}
    (h : Acceptable directory user username share s inviter mine theirs) (i : Invites) :
    (s.keep inviter.user i).look Invites user = .ok mine :=
  (Storage.look_keep_of_user_ne s i (Ne.symm h.user_ne)).trans h.look_mine

/-- How an attempt to accept an invite may end: with which answer and with which storage. -/
inductive AcceptEffect (directory : Directory) (user : UserId) (username share : String)
    (s : Storage) : Except ActionError AcceptOutcome → Storage → Prop
  | failed (e : ActionError) : AcceptEffect directory user username share s (.error e) s
  | again {mine : Invites} (hmine : s.look Invites user = .ok mine) (h : mine.invited = true) :
      AcceptEffect directory user username share s (.ok .alreadyInvited) s
  | notFound (h : directory.named? share = none) :
      AcceptEffect directory user username share s (.ok .inviterNotFound) s
  | own (h : share = username ∨ ∃ account, directory.named? share = some account ∧
        account.user = user) :
      AcceptEffect directory user username share s (.ok .selfInvite) s
  | halfway (e : ActionError) {inviter : Account} {mine theirs : Invites}
      (h : Acceptable directory user username share s inviter mine theirs) :
      AcceptEffect directory user username share s (.error e)
        (s.keep inviter.user (theirs.add username))
  | accepted {inviter : Account} {mine theirs : Invites}
      (h : Acceptable directory user username share s inviter mine theirs) :
      AcceptEffect directory user username share s (.ok (.accepted inviter.username))
        ((s.keep inviter.user (theirs.add username)).keep user (mine.acceptFrom inviter.username))

/-- First the invites of the inviter are written, and then those of the player. -/
theorem AcceptEffect.rewrites {directory : Directory} {user : UserId} {username share : String}
    {s s' : Storage} {answer : Except ActionError AcceptOutcome}
    (heffect : AcceptEffect directory user username share s answer s') :
    s' = s ∨ ∃ inviter s₁, directory.named? share = some inviter ∧
      s.Rewrites Invites inviter.user s₁ ∧ s₁.Rewrites Invites user s' := by
  cases heffect with
  | halfway e h => exact .inr ⟨_, _, h.named, .saved h.look_theirs _, .same⟩
  | accepted h =>
    exact .inr ⟨_, _, h.named, .saved h.look_theirs _, .saved (h.look_mine_keep _) _⟩
  | failed e => exact .inl rfl
  | again hmine h => exact .inl rfl
  | notFound h => exact .inl rfl
  | own h => exact .inl rfl

/-- Accepting an invite, opened once. Each load and each save may fail, and the cases of
`AcceptEffect` tell how far the accept has come by then. -/
theorem accept_effect (directory : Directory) (user : UserId) (username share : String)
    {s : Store} (hcodec : s.codec = {}) :
    ∃ answer s', (accept directory user username share).perform s = (answer, s') ∧ s.IsLike s' ∧
      AcceptEffect directory user username share s.storage answer s'.storage := by
  obtain ⟨s₁, hlike₁, hstorage₁, hload⟩ := ActionM.load_cases Invites user hcodec
  rw [accept, ActionM.perform]
  obtain ⟨e, hload⟩ | ⟨mine, hmine, hload⟩ := hload
  · rw [Perform.bind_of_error hload]
    exact ⟨_, _, rfl, hlike₁, hstorage₁ ▸ .failed e⟩
  rw [Perform.bind_of_ok hload]
  cases hnew : mine.invited with
  | true =>
    refine ⟨_, _, rfl, hlike₁, ?_⟩
    rw [hstorage₁]
    exact .again hmine hnew
  | false =>
  simp only [Bool.false_eq_true, if_false]
  by_cases hshare : share = username
  · rw [if_pos hshare]
    exact ⟨_, _, rfl, hlike₁, hstorage₁ ▸ .own (.inl hshare)⟩
  rw [if_neg hshare, Directory.lookUpName, Directory.answer]
  cases directory.outage with
  | some reason =>
    exact ⟨_, _, rfl, hlike₁, hstorage₁ ▸ .failed (.identity (.unavailable reason))⟩
  | none =>
  rw [Perform.bind_of_ok (ActionM.ofIdentity_ok _ s₁)]
  cases hnamed : directory.named? share with
  | none => exact ⟨_, _, rfl, hlike₁, hstorage₁ ▸ .notFound hnamed⟩
  | some inviter =>
  by_cases huser : inviter.user = user
  · simp only [huser, if_true]
    exact ⟨_, _, rfl, hlike₁, hstorage₁ ▸ .own (.inr ⟨inviter, hnamed, huser⟩)⟩
  simp only [huser, if_false]
  have hcodec₁ := hlike₁.codec.trans hcodec
  obtain ⟨s₂, hlike₂, hstorage₂, hload⟩ := ActionM.load_cases Invites inviter.user hcodec₁
  have hsame₂ : s₂.storage = s.storage := hstorage₂.trans hstorage₁
  obtain ⟨e, hload⟩ | ⟨theirs, htheirs, hload⟩ := hload
  · rw [Perform.bind_of_error hload]
    exact ⟨_, _, rfl, hlike₁.trans hlike₂, hsame₂ ▸ .failed e⟩
  rw [Perform.bind_of_ok hload]
  rw [hstorage₁] at htheirs
  have hacceptable : Acceptable directory user username share s.storage inviter mine theirs :=
    ⟨hmine, hnew, hshare, hnamed, huser, htheirs⟩
  have hcodec₂ := hlike₂.codec.trans hcodec₁
  obtain ⟨s₃, hlike₃, hsave⟩ :=
    ActionM.save_cases inviter.user (theirs.add username) hcodec₂
  have hlike := (hlike₁.trans hlike₂).trans hlike₃
  rw [hsame₂] at hsave
  obtain ⟨hsame, e, hsave⟩ | ⟨hkeep, hsave⟩ := hsave
  · rw [Perform.bind_of_error hsave]
    exact ⟨_, _, rfl, hlike, hsame ▸ .failed e⟩
  rw [Perform.bind_of_ok hsave]
  obtain ⟨s₄, hlike₄, hsave⟩ := ActionM.save_cases user (mine.acceptFrom inviter.username)
    (hlike₃.codec.trans hcodec₂)
  rw [hkeep] at hsave
  obtain ⟨hsame, e, hsave⟩ | ⟨hkeep, hsave⟩ := hsave
  · rw [Perform.bind_of_error hsave]
    exact ⟨_, _, rfl, hlike.trans hlike₄, hsame ▸ .halfway e hacceptable⟩
  · rw [Perform.bind_of_ok hsave]
    exact ⟨_, _, rfl, hlike.trans hlike₄, hkeep ▸ .accepted hacceptable⟩

end PlayerHub.Invites
