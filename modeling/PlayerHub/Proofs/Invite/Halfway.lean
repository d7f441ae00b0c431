import PlayerHub.Proofs.Invite.Accept

namespace PlayerHub

namespace ActionM

variable {D : Type} [Document D] {s : Store}

/-- Of two saves, the first is refused, or only the second, or none. -/
theorem saves_cases {E α : Type} [Document E] (hcodec : s.codec = {}) (user user' : UserId) (d : D)
    (d' : E) (a : α) :
    let first := Store.saving user d
    let second := Store.saving user' d'
    let written := { s.noting first with storage := s.storage.keep user d }
    let action : ActionM α := do
      ofStore (Store.save user d)
      ofStore (Store.save user' d')
      return a
    (∃ e, action s = (.error e, s.noting first)) ∨
      s.gate s.journal.length first = none ∧
        ((∃ reason, s.gate (s.journal.length + 1) second = some reason ∧
            action s = (.error (.store (.unavailable reason)), written.noting second)) ∨
          action s = (.ok a,
            { written.noting second with storage := written.storage.keep user' d' })) := by
  intro first second written action
  cases hfirst : s.refusal? first with
  | some e =>
    exact .inl ⟨.store e, Perform.bind_of_error (save_of_refusal hcodec hfirst) _⟩
  | none =>
    obtain ⟨hpassed, honline⟩ := Store.refusal?_eq_none_iff.1 hfirst
    have hwritten : action s =
        (do ofStore (Store.save user' d'); return a : ActionM α) written :=
      Perform.bind_of_ok (save_of_passes hcodec hfirst) _
    have hcodec' : written.codec = {} := hcodec
    refine .inr ⟨hpassed, ?_⟩
    rw [hwritten]
    cases hsecond : s.gate (s.journal.length + 1) second with
    | some reason =>
      have hrefusal : written.refusal? second = some (.unavailable reason) := by
        rw [Store.refusal?, show written.gate written.journal.length second = some reason from
          hsecond]
      exact .inl ⟨reason, rfl, Perform.bind_of_error (save_of_refusal hcodec' hrefusal) _⟩
    | none =>
      have hrefusal : written.refusal? second = none :=
        Store.refusal?_eq_none_iff.2 ⟨hsecond, honline⟩
      exact .inr (Perform.bind_of_ok (save_of_passes hcodec' hrefusal) _)

end ActionM

namespace Invites

/-- Whether an attempt to accept an invite comes to an end between its two saves: it has loaded both
documents, the save for the inviter was let through, and the one for the player was refused. -/
structure StopsBetween (s s' : Store) (user : UserId) (username : String) (inviter : Account)
    (mine theirs : Invites) (reason : String) : Prop where
  journal : s'.journal =
    Store.saving user (mine.acceptFrom inviter.username) ::
      Store.saving inviter.user (theirs.add username) ::
        Store.loading Invites inviter.user :: Store.loading Invites user :: s.journal
  passed : s.gate (s.journal.length + 2) (Store.saving inviter.user (theirs.add username)) = none
  refused : s.gate (s.journal.length + 3) (Store.saving user (mine.acceptFrom inviter.username)) =
    some reason

variable {directory : Directory} {user : UserId} {username share : String} {s : Store}
  {inviter : Account} {mine theirs : Invites}

/-- An attempt that may go on changes nothing, or it stops between its two saves, or the invite
is accepted. -/
theorem accept_of_acceptable (hcodec : s.codec = {})
    (h : Acceptable directory user username share s.storage inviter mine theirs) :
    let result := (accept directory user username share).perform s
    result.2.storage = s.storage ∨
      (∃ reason, result.1 = .error (.store (.unavailable reason)) ∧
        StopsBetween s result.2 user username inviter mine theirs reason) ∨
      result.1 = .ok (.accepted inviter.username) := by
  intro result
  have hresult : result = accept directory user username share s := rfl
  rw [hresult, accept]
  cases hmine : s.refusal? (Store.loading Invites user) with
  | some e =>
    rw [Perform.bind_of_error (ActionM.load_of_refusal hcodec hmine)]
    exact .inl rfl
  | none =>
  rw [Perform.bind_of_ok (ActionM.load_of_look hcodec hmine h.look_mine)]
  simp only [h.not_invited, Bool.false_eq_true, if_false, h.share_ne, Directory.lookUpName,
    Directory.answer]
  cases directory.outage with
  | some reason => exact .inl rfl
  | none =>
  rw [Perform.bind_of_ok (ActionM.ofIdentity_ok _ _)]
  simp only [h.named, h.user_ne, if_false]
  have hcodec₁ : (s.noting (Store.loading Invites user)).codec = {} := hcodec
  cases htheirs : (s.noting (Store.loading Invites user)).refusal?
      (Store.loading Invites inviter.user) with
  | some e =>
    rw [Perform.bind_of_error (ActionM.load_of_refusal hcodec₁ htheirs)]
    exact .inl rfl
  | none =>
  rw [Perform.bind_of_ok (ActionM.load_of_look hcodec₁ htheirs h.look_theirs)]
  obtain ⟨e, hsaves⟩ | ⟨hpassed, ⟨reason, hrefused, hsaves⟩ | hsaves⟩ :=
    ActionM.saves_cases (s := (s.noting (Store.loading Invites user)).noting
      (Store.loading Invites inviter.user)) hcodec inviter.user user (theirs.add username)
      (mine.acceptFrom inviter.username) (AcceptOutcome.accepted inviter.username)
  · rw [hsaves]
    exact .inl rfl
  · rw [hsaves]
    exact .inr (.inl ⟨reason, rfl, rfl, hpassed, hrefused⟩)
  · rw [hsaves]
    exact .inr (.inr rfl)

/-- An attempt leaves the storage as it is, or it stops between its two saves, or the invite is
accepted. -/
theorem accept_cases (directory : Directory) (user : UserId) (username share : String)
    (hcodec : s.codec = {}) :
    let result := (accept directory user username share).perform s
    (result.2.storage = s.storage ∧ ∀ inviter, result.1 ≠ .ok (.accepted inviter)) ∨
      ∃ inviter mine theirs,
        Acceptable directory user username share s.storage inviter mine theirs ∧
          ((∃ reason, result.1 = .error (.store (.unavailable reason)) ∧
              result.2.storage = s.storage.keep inviter.user (theirs.add username) ∧
              StopsBetween s result.2 user username inviter mine theirs reason) ∨
            (result.1 = .ok (.accepted inviter.username) ∧
              result.2.storage = (s.storage.keep inviter.user (theirs.add username)).keep user
                (mine.acceptFrom inviter.username))) := by
  intro result
  obtain ⟨answer, s', hperform, -, heffect⟩ := accept_effect directory user username share hcodec
  have hanswer : result.1 = answer := congrArg Prod.fst hperform
  have hafter : result.2.storage = s'.storage := congrArg (·.2.storage) hperform
  rw [hanswer]
  generalize s'.storage = storage at heffect hafter
  cases heffect with
  | failed e => exact .inl ⟨hafter, fun inviter h => nomatch h⟩
  | again hmine h => exact .inl ⟨hafter, fun inviter h => nomatch h⟩
  | notFound h => exact .inl ⟨hafter, fun inviter h => nomatch h⟩
  | own h => exact .inl ⟨hafter, fun inviter h => nomatch h⟩
  | halfway e h =>
    rename_i inviter mine theirs
    obtain hsame | ⟨reason, herror, hstops⟩ | haccepted :=
      accept_of_acceptable hcodec h
    · exact .inl ⟨hsame, fun inviter h => nomatch h⟩
    · exact .inr ⟨inviter, mine, theirs, h, .inl ⟨reason, hanswer.symm.trans herror, hafter, hstops⟩⟩
    · cases hanswer.symm.trans haccepted
  | accepted h => exact .inr ⟨_, _, _, h, .inr ⟨rfl, hafter⟩⟩

end Invites

end PlayerHub
