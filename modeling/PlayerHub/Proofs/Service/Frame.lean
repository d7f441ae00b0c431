import PlayerHub.Proofs.Document.Concealed
import PlayerHub.Proofs.Service.Call
import PlayerHub.Proofs.Service.PlayerCall

namespace PlayerHub

namespace Storage

/-- Whether one storage may become another one by changes at some places only. -/
structure AgreesOff (s s' : Storage) (places : List ObjectId) : Prop where
  online : s'.online = s.online
  objects : ∀ id, id ∉ places → s'.objects.get? id = s.objects.get? id

namespace AgreesOff

variable {D : Type} [Document D] {s s' s'' : Storage} {places : List ObjectId}

theorem refl (s : Storage) (places : List ObjectId) : s.AgreesOff s places := ⟨rfl, fun _ _ => rfl⟩

theorem trans (h : s.AgreesOff s' places) (h' : s'.AgreesOff s'' places) :
    s.AgreesOff s'' places where
  online := h'.online.trans h.online
  objects := fun id hid => (h'.objects id hid).trans (h.objects id hid)

theorem of_rewrites {user : UserId} (h : s.Rewrites D user s')
    (hplace : Store.place D (.user user) ∈ places) : s.AgreesOff s' places := by
  cases h with
  | same => exact .refl s places
  | saved hlook d =>
    exact ⟨rfl, fun _ hid => get?_keep_of_ne s user d fun hsame => hid (hsame ▸ hplace)⟩

end AgreesOff

/-- Whether a user's document is stored as it was, or could be read, can be read again and has
changed in a certain way. -/
def Revises {D : Type} [Document D] (s s' : Storage) (user : UserId)
    (change : D → D → Prop) : Prop :=
  s'.stored? D user = s.stored? D user ∨
    ∃ before after, s.decoded D user = .ok before ∧ s'.decoded D user = .ok after ∧
      change before after

end Storage

namespace Invites

/-- The places of the invites of a user and of the player with a username, if there is one. -/
def placesOf (directory : Directory) (user : UserId) (share : String) : List ObjectId :=
  Store.place Invites (.user user) ::
    ((directory.named? share).toList.map fun inviter => Store.place Invites (.user inviter.user))

namespace AcceptEffect

variable {directory : Directory} {user : UserId} {username share : String} {s s' : Storage}
  {answer : Except ActionError AcceptOutcome}

theorem agreesOff (heffect : AcceptEffect directory user username share s answer s') :
    s.AgreesOff s' (placesOf directory user share) := by
  obtain rfl | ⟨inviter, s₁, hnamed, htheirs, hmine⟩ := heffect.rewrites
  · exact .refl s' _
  · have hplace : Store.place Invites (.user inviter.user) ∈ placesOf directory user share := by
      rw [placesOf, hnamed]
      exact List.mem_cons_of_mem _ List.mem_cons_self
    exact (Storage.AgreesOff.of_rewrites htheirs hplace).trans
      (.of_rewrites hmine List.mem_cons_self)

/-- The player's own invites are saved with the list of invitees that was loaded. -/
theorem revises_own (hshown : ∀ u, ¬ s.Conceals Invites u)
    (heffect : AcceptEffect directory user username share s answer s') :
    s.Revises s' user fun before after : Invites => after.invitees = before.invitees := by
  cases heffect with
  | halfway e h => exact .inl (Storage.stored?_keep_of_user_ne s _ (Ne.symm h.user_ne))
  | accepted h =>
    have hbefore := h.look_mine
    rw [Storage.look_eq_decoded (hshown user)] at hbefore
    exact .inr ⟨_, _, hbefore, Storage.decoded_keep_self _ user _, rfl⟩
  | failed e => exact .inl rfl
  | again hmine h => exact .inl rfl
  | notFound h => exact .inl rfl
  | own h => exact .inl rfl

/-- An accept does no more to the invites of the inviter than to add the player to them. -/
theorem revises_inviter (hshown : ∀ u, ¬ s.Conceals Invites u)
    (heffect : AcceptEffect directory user username share s answer s') {inviter : Account}
    (hnamed : directory.named? share = some inviter) :
    s.Revises s' inviter.user (AddsEntry username) := by
  have hadded {found : Account} {mine theirs : Invites}
      (h : Acceptable directory user username share s found mine theirs) :
      found = inviter ∧ s.decoded Invites found.user = .ok theirs := by
    refine ⟨Option.some.inj (h.named.symm.trans hnamed), ?_⟩
    rw [← Storage.look_eq_decoded (hshown found.user), h.look_theirs]
  cases heffect with
  | halfway e h =>
    obtain ⟨rfl, hbefore⟩ := hadded h
    exact .inr ⟨_, _, hbefore, Storage.decoded_keep_self s _ _, addsEntry_add _ username⟩
  | accepted h =>
    obtain ⟨rfl, hbefore⟩ := hadded h
    refine .inr ⟨_, _, hbefore, ?_, addsEntry_add _ username⟩
    -- The save of the player's own invites is made after that of the inviter's.
    rw [Storage.decoded_keep_of_user_ne _ _ h.user_ne, Storage.decoded_keep_self]
  | failed e => exact .inl rfl
  | again hmine h => exact .inl rfl
  | notFound h => exact .inl rfl
  | own h => exact .inl rfl

end AcceptEffect

end Invites

namespace PlayerCall

/-- Where a call may change what is stored. -/
def places (c : PlayerCall) (p : Player) (directory : Directory) : List ObjectId :=
  match c with
  | report .. => [Store.place Feedback (.user p.user)]
  | redeem .. => [Store.place Redeemed (.user p.user)]
  | accept share => Invites.placesOf directory p.user share
  | ready => []
  | claim .. => [Store.place Invites (.user p.user)]

theorem Effect.agreesOff {c : PlayerCall} {p : Player} {s : Server} {storage : Storage}
    (heffect : c.Effect p s storage) :
    s.store.storage.AgreesOff storage (c.places p s.directory) := by
  cases heffect with
  | report h => exact .of_rewrites h.rewrites List.mem_cons_self
  | redeem h => exact .of_rewrites h.rewrites List.mem_cons_self
  | accept h => exact h.agreesOff
  | ready => exact .refl s.store.storage _
  | claim h => exact .of_rewrites h.rewrites List.mem_cons_self

/-- Whatever is stored and whichever calls to the storage fail: a call of a player changes nothing
but the documents that it is about. Of the invites of an inviter an accept changes the entry of the
player only, and of the player's own it keeps the list of invitees, unless these invites are kept
from their owners. The other calls of the server change nothing that is stored. -/
theorem changes_only_what_it_is_about {s : Server} (hcodec : s.store.codec = {}) :
    (∀ (c : PlayerCall) (p : Player),
      let s' := (c.perform p s).2
      s'.directory = s.directory ∧ s'.sessions = s.sessions ∧
        s.store.storage.AgreesOff s'.store.storage (c.places p s.directory)) ∧
      ((∀ user, ¬ s.store.storage.Conceals Invites user) → ∀ (p : Player) (share : String),
        let s' := ((accept share).perform p s).2
        (s.store.storage.Revises s'.store.storage p.user fun before after : Invites =>
          after.invitees = before.invitees) ∧
          ∀ inviter, s.directory.named? share = some inviter →
            s.store.storage.Revises s'.store.storage inviter.user (Invites.AddsEntry p.username)) ∧
        ∀ c : ServerCall, (c.next s).store = s.store := by
  refine ⟨fun c p => ?_, fun hshown p share => ?_, fun c => ?_⟩
  · rw [c.perform_eq p s]
    exact ⟨rfl, rfl, (c.effect_action p hcodec).agreesOff⟩
  · rw [(accept share).perform_eq p s]
    cases (accept share).effect_action p hcodec with
    | accept h =>
      exact ⟨h.revises_own hshown, fun inviter hnamed => h.revises_inviter hshown hnamed⟩
  · obtain ⟨directory, sessions, sweeper, hkeeps⟩ := Server.next_keeps c s
    rw [hkeeps]

/-- Bob accepts Ada's invite: Bob is listed beside Carol, for whom the reward stays claimed. -/
theorem bob_is_listed_beside_carol :
    let ada : Account := ⟨⟨List.replicate 32 1, List.length_replicate⟩, "ada"⟩
    let bob : Account := ⟨⟨List.replicate 32 2, List.length_replicate⟩, "bob"⟩
    let listing : Invites :=
      { invitees := NameMap.empty.insert "carol" { name := "carol", claimed := true } }
    let s : Server := { Server.start {} {} {} { bindings := [⟨⟨"a"⟩, ada⟩, ⟨⟨"b"⟩, bob⟩] } with
      store := { storage := ({} : Storage).keep ada.user listing } }
    let s' := ((accept "ada").perform ⟨bob.user, bob.username, "", 0⟩ s).2
    s'.store.storage.stored? Invites ada.user ≠ s.store.storage.stored? Invites ada.user ∧
      s'.store.storage.stored? Feedback ada.user = none ∧
      ∃ after, s'.store.storage.decoded Invites ada.user = .ok after ∧
        after.invitees.get? "bob" = some { name := "bob" } ∧
        after.invitees.get? "carol" = some { name := "carol", claimed := true } := by
  intro ada bob listing s s'
  have hwritten : s'.store.storage.stored? Invites ada.user ≠
      s.store.storage.stored? Invites ada.user := by decide +kernel
  have hshown (user : UserId) : ¬ s.store.storage.Conceals Invites user :=
    Storage.not_conceals_keep listing Storage.not_conceals_empty
  obtain ⟨hframe, hinvites, -⟩ := @changes_only_what_it_is_about s rfl
  obtain ⟨-, -, hagrees⟩ := hframe (accept "ada") ⟨bob.user, bob.username, "", 0⟩
  obtain ⟨-, hinviter⟩ := hinvites hshown ⟨bob.user, bob.username, "", 0⟩ "ada"
  obtain hsame | ⟨before, after, hbefore, hafter, hadds⟩ := hinviter ada rfl
  · exact absurd hsame hwritten
  obtain rfl := Except.ok.inj ((Storage.decoded_keep_self _ _ listing).symm.trans hbefore)
  refine ⟨hwritten, hagrees.objects _ (by decide), after, hafter, hadds.entry, ?_⟩
  rw [hadds.entries "carol" (by decide)]
  rfl

end PlayerCall

end PlayerHub
