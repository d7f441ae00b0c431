import PlayerHub.Proofs.Document.Concealed
import PlayerHub.Proofs.Game.Invites
import PlayerHub.Proofs.Game.Journal

namespace PlayerHub

/-- Whether an answer is an error, or a refusal that the rules of the game foresee. -/
def GameAnswer.isFailure : GameAnswer → Bool
  | .signIn (.ok _) | .report (.ok _) | .ready (.ok _) | .progress (.ok _) | .advance (.ok _) => false
  | .redeem (.ok .redeemed) | .accept (.ok (.accepted _)) | .claim (.ok (.claimed _)) => false
  | _ => true

namespace Game

/-- What an accept leaves behind that fails at its second save: nothing is changed but the invites
of the inviter, and of them only the entry of the player. -/
structure HalfAccepted (g g' : Game) (user : UserId) (username share : String) (inviter : Account)
    (mine before after : Invites) (reason : String) : Prop where
  named : g.directory.named? share = some inviter
  decoded_mine : g.store.storage.decoded Invites user = .ok mine
  stops : Invites.StopsBetween g.store g'.store user username inviter mine before reason
  others : ∀ id, id ≠ Store.place Invites (.user inviter.user) →
    g'.store.storage.objects.get? id = g.store.storage.objects.get? id
  decoded_before : g.store.storage.decoded Invites inviter.user = .ok before
  decoded_after : g'.store.storage.decoded Invites inviter.user = .ok after
  entry : after.invitees.get? username = some { name := username }
  entries : ∀ name, name ≠ username → after.invitees.get? name = before.invitees.get? name
  invited : after.invited = before.invited
  inviter : after.inviter = before.inviter

variable {g : Game} {c : GameCall}

/-- Every call but an accept writes last of all. -/
theorem storage_next_of_failure (hcodec : g.store.codec = {})
    (hfailure : (g.answer c).isFailure = true) :
    (g.next c).store.storage = g.store.storage ∨
      ∃ user username share, c = .accept user username share := by
  obtain ⟨-, heffect⟩ := effect_next hcodec c
  generalize g.answer c = a at heffect hfailure
  generalize (g.next c).directory = d' at heffect
  generalize (g.next c).store.storage = s' at heffect ⊢
  cases heffect with
  | signIn h => exact .inl rfl
  | noSignIn external username create fresh e => exact .inl rfl
  | ready user answer => exact .inl rfl
  | progress user answer => exact .inl rfl
  | report h =>
    cases h with
    | failed e => exact .inl rfl
    | submitted hlook => cases hfailure
  | redeem h =>
    cases h with
    | redeemed hlook hcode hnew => cases hfailure
    | failed e => exact .inl rfl
    | invalid hcode => exact .inl rfl
    | again hlook hcode hold => exact .inl rfl
  | accept h => exact .inr ⟨_, _, _, rfl⟩
  | claim h =>
    cases h with
    | claimed hmine hall => cases hfailure
    | failed e => exact .inl rfl
    | unknown hmine hname => exact .inl rfl
  | advance h =>
    cases h with
    | saved => cases hfailure
    | failed e => exact .inl rfl

/-- Whatever is stored, whichever accounts there are and whichever calls to the storage fail, a call
that is answered with an error or a refusal changes nothing, unless it is an accept that fails at
its second save. It is enough that nothing is stored as invites that their owner may not read. -/
theorem nothing_changed_or_half_accepted {directory : Directory} {storage : Storage} {gate : Gate}
    {journal : List Call} {c : GameCall} (hshown : ∀ user, ¬ storage.Conceals Invites user) :
    let g : Game := { directory, store := { storage, gate, journal } }
    (g.answer c).isFailure = true →
      (g.next c).store.storage = g.store.storage ∨
        ∃ user username share inviter mine before after reason,
          c = .accept user username share ∧
            g.answer c = .accept (.error (.store (.unavailable reason))) ∧
            g.HalfAccepted (g.next c) user username share inviter mine before after reason := by
  intro g hfailure
  have hcodec : g.store.codec = {} := rfl
  obtain hsame | ⟨user, username, share, rfl⟩ := storage_next_of_failure hcodec hfailure
  · exact .inl hsame
  obtain ⟨hstorage, -⟩ | ⟨inviter, mine, theirs, h, ⟨reason, hanswer, hstorage, hstops⟩ |
    ⟨hanswer, -⟩⟩ := accept_next_cases hcodec user username share
  · exact .inl hstorage
  · refine .inr ⟨user, username, share, inviter, mine, theirs, theirs.add username, reason, rfl,
      hanswer, ?_⟩
    have hadds := Invites.addsEntry_add theirs username
    exact {
      named := h.named
      decoded_mine := by rw [← Storage.look_eq_decoded (hshown user), h.look_mine]
      stops := hstops
      others := by
        intro id hid
        rw [hstorage, Storage.get?_keep_of_ne _ _ _ hid]
      decoded_before := by
        rw [← Storage.look_eq_decoded (hshown inviter.user), h.look_theirs]
      decoded_after := by rw [hstorage, Storage.decoded_keep_self]
      entry := hadds.entry
      entries := hadds.entries
      invited := hadds.invited
      inviter := hadds.inviter }
  · rw [hanswer] at hfailure
    cases hfailure

/-- Bob's accept fails at its second save, and leaves Bob in Alice's list. -/
theorem bob_is_listed_by_failure :
    let alice := userOfDigit 1
    let bob := userOfDigit 2
    let gate : Gate := fun n _ => if n = 3 then some "write rejected" else none
    let g := (start gate).run
      [.signIn ⟨"a"⟩ "alice" true alice, .signIn ⟨"b"⟩ "bob" true bob]
    let c : GameCall := .accept bob "bob" "alice"
    g.answer c = .accept (.error (.store (.unavailable "write rejected"))) ∧
      (g.next c).store.storage.objects.get? (Store.place Invites (.user bob)) = none ∧
      ∃ after, (g.next c).store.storage.decoded Invites alice = .ok after ∧
        after.invitees.get? "bob" = some { name := "bob" } ∧
        ∀ name, name ≠ "bob" → after.invitees.get? name = none := by
  intro alice bob gate g c
  have hempty : ∀ user, g.store.storage.stored? Invites user = none := fun _ => rfl
  have hshown : ∀ user, ¬ g.store.storage.Conceals Invites user := by
    rintro user ⟨content, hstored, -⟩
    cases (hempty user).symm.trans hstored
  have hanswer : g.answer c = .accept (.error (.store (.unavailable "write rejected"))) := rfl
  have hwritten : ((g.next c).store.storage.stored? Invites alice).isSome = true := rfl
  obtain hsame | ⟨user, username, share, inviter, mine, before, after, reason, hc, -, half⟩ :=
    @nothing_changed_or_half_accepted g.directory g.store.storage gate [] c hshown
      (congrArg GameAnswer.isFailure hanswer)
  · have hstorage : (g.next c).store.storage = g.store.storage := hsame
    rw [hstorage, hempty] at hwritten
    cases hwritten
  · obtain ⟨rfl, rfl, rfl⟩ := GameCall.accept.inj hc
    obtain rfl : (⟨alice, "alice"⟩ : Account) = inviter := Option.some.inj half.named
    have hfresh : g.store.storage.decoded Invites alice = .ok {} := rfl
    obtain rfl := Except.ok.inj (hfresh.symm.trans half.decoded_before)
    exact ⟨hanswer, half.others _ (by decide), after, half.decoded_after, half.entry, half.entries⟩

end Game

end PlayerHub
