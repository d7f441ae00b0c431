import PlayerHub.Proofs.Game.Garbled
import PlayerHub.Proofs.Service.PlayerCall

namespace PlayerHub

namespace PlayerCall

variable {c : PlayerCall} {p : Player} {s : Server}

/-- Whether a call goes by the document of a kind and a user: the player's own, the one of the
inviter for an accept that gets as far, and for the list of what is ready the progress of the
unclaimed invitees, down to the first one that cannot be read. -/
inductive Consults (p : Player) (s : Server) : PlayerCall → DocumentKind → UserId → Prop
  | own (c : PlayerCall) : Consults p s c c.kind p.user
  | inviter {share : String} {inviter : Account} {mine : Invites}
      (hmine : s.store.storage.look Invites p.user = .ok mine) (hnew : mine.invited = false)
      (hshare : share ≠ p.username) (hnamed : s.directory.named? share = some inviter)
      (huser : inviter.user ≠ p.user) : Consults p s (.accept share) .invites inviter.user
  | invitee {mine : Invites} {before after : List Invitee} {x : Invitee} {account : Account}
      (hmine : s.store.storage.look Invites p.user = .ok mine)
      (hlist : mine.invitees.values = before ++ x :: after) (hunclaimed : x.claimed = false)
      (hnamed : s.directory.named? x.name = some account)
      (hbefore : ∀ y ∈ before, y.claimed = false → ∀ account,
        s.directory.named? y.name = some account →
          ∃ progress, s.store.storage.look Progress account.user = .ok progress) :
      Consults p s .ready .progress account.user

theorem loadsFirst_action (c : PlayerCall) (p : Player) (s : Server) :
    (c.action p s).LoadsFirst c.kind p.user :=
  match c with
  | report content issues now => .submit p.user content issues now
  | redeem code now => .redeem s.catalog p.user code now
  | accept share => .accept s.directory p.user p.username share
  | ready => .ready s.directory p.user
  | claim names => .claim p.user names

theorem Effect.spares {storage : Storage} (heffect : c.Effect p s storage) :
    s.store.storage.Spares storage := by
  cases heffect with
  | report h => exact .of_rewrites .feedback h.rewrites
  | redeem h => exact .of_rewrites .redeemed h.rewrites
  | accept h => exact h.spares
  | ready => exact .refl s.store.storage
  | claim h => exact .of_rewrites .invites h.rewrites

/-- Where nothing keeps calls from the storage, every document that a call goes by is read. -/
theorem reads_of_consults {kind : DocumentKind} {user : UserId} (hopen : s.store.IsOpen)
    (houtage : s.directory.outage = none) (hconsults : c.Consults p s kind user) :
    s.store.Reads ((c.action p s).perform s.store).2 (Store.place kind.Carrier (.user user)) := by
  cases hconsults with
  | own => exact (c.loadsFirst_action p s).reads hopen.codec (hopen.gate _ _)
  | inviter hmine hnew hshare hnamed huser =>
    exact Invites.reads_inviter hopen houtage hmine hnew hshare hnamed huser
  | invitee hmine hlist hunclaimed hnamed hbefore =>
    exact Invites.reads_invitee hopen houtage hmine hlist hunclaimed hnamed hbefore

/-- Whatever is stored, whichever calls to the storage fail and whatever a player asks for: a
garbled document, of any kind and any user, stays as it is. If it is read, the player is told that
it is corrupt, by its collection and its key, and nothing at all has changed. Where nothing keeps
calls from the storage and the accounts, every document that the call goes by is read. -/
theorem garbled_documents_are_told (c : PlayerCall) (p : Player) (s : Server)
    (hcodec : s.store.codec = {}) :
    let s' := (c.perform p s).2
    (∀ (kind : DocumentKind) (user : UserId), s.store.storage.IsGarbled kind.Carrier user →
      s'.store.storage.stored? kind.Carrier user = s.store.storage.stored? kind.Carrier user ∧
      (s.store.storage.online = true →
        s.store.Reads s'.store (Store.place kind.Carrier (.user user)) →
          (∃ cause, (c.perform p s).1 = .error (.action (.store
            (.corrupt (Document.collection kind.Carrier) (Document.key kind.Carrier) cause)))) ∧
          s'.store.storage = s.store.storage)) ∧
    (s.store.IsOpen → s.directory.outage = none →
      ∀ (kind : DocumentKind) (user : UserId), c.Consults p s kind user →
        s.store.Reads s'.store (Store.place kind.Carrier (.user user))) := by
  intro s'
  have hs' : s'.store = ((c.action p s).perform s.store).2 :=
    congrArg (·.2.store) (c.perform_eq p s)
  rw [hs', c.perform_eq p s]
  refine ⟨fun kind user hgarbled => ⟨?_, fun honline hreads => ?_⟩,
    fun hopen houtage kind user => reads_of_consults hopen houtage⟩
  · exact (c.effect_action p hcodec).spares kind user hgarbled
  · obtain ⟨⟨cause, herror⟩, hstorage⟩ := (c.loadsFirst_action p s).heeds.tells s.store hcodec
      honline kind user hgarbled hreads
    have hperform : ((c.action p s).perform s.store).1 = _ := herror
    rw [hperform]
    exact ⟨⟨cause, rfl⟩, hstorage⟩

/-- Bob is told that the invites of Ada are corrupt, and Ada is told so of the progress of Bob. -/
theorem garbled_documents_of_others_are_told :
    let ada : Account := ⟨⟨List.replicate 32 1, List.length_replicate⟩, "ada"⟩
    let bob : Account := ⟨⟨List.replicate 32 2, List.length_replicate⟩, "bob"⟩
    let player (a : Account) : Player := ⟨a.user, a.username, "", 0⟩
    let started := Server.start {} {} {} { bindings := [⟨⟨"a"⟩, ada⟩, ⟨⟨"b"⟩, bob⟩] }
    let server (storage : Storage) : Server := { started with store := { storage } }
    let garbled : Content := ⟨"", .ownerRead, .noWrite⟩
    let listing : Invites := { invitees := NameMap.empty.insert "bob" { name := "bob" } }
    let s := server (({} : Storage).put ⟨Store.place Invites (.user ada.user), garbled⟩)
    let s' := server ((({} : Storage).put ⟨Store.place Progress (.user bob.user), garbled⟩).keep
      ada.user listing)
    let accepting := (accept "ada").perform (player bob) s
    let listed := ready.perform (player ada) s'
    (∃ cause, accepting.1 = .error (.action (.store (.corrupt "user_data" "invite" cause)))) ∧
      accepting.2.store.storage = s.store.storage ∧
      (∃ cause, listed.1 = .error (.action (.store (.corrupt "Home" "HomeData" cause)))) ∧
      listed.2.store.storage = s'.store.storage := by
  intro ada bob player started server garbled listing s s' accepting listed
  have hinvites : s.store.storage.IsGarbled Invites ada.user :=
    ⟨garbled, rfl, by decide, by decide +kernel⟩
  have hfresh : s.store.storage.look Invites bob.user = .ok {} := rfl
  have hinviter : (accept "ada").Consults (player bob) s .invites ada.user :=
    .inviter hfresh rfl (by decide) rfl (by decide)
  have hprogress : s'.store.storage.IsGarbled Progress bob.user :=
    ⟨garbled, rfl, by decide, by decide +kernel⟩
  have hlisting : s'.store.storage.look Invites ada.user = .ok listing :=
    Storage.look_keep_self _ _ _
  have hlist : listing.invitees.values = [] ++ { name := "bob" } :: [] := rfl
  have hinvitee : ready.Consults (player ada) s' .progress bob.user :=
    .invitee hlisting hlist rfl rfl nofun
  obtain ⟨htold, hread⟩ := garbled_documents_are_told (accept "ada") (player bob) s rfl
  obtain ⟨haccepted, hsame⟩ := (htold .invites ada.user hinvites).2 rfl
    (hread ⟨rfl, fun _ _ => rfl, rfl⟩ rfl .invites ada.user hinviter)
  obtain ⟨htold', hread'⟩ := garbled_documents_are_told ready (player ada) s' rfl
  obtain ⟨hlisted, hsame'⟩ := (htold' .progress bob.user hprogress).2 rfl
    (hread' ⟨rfl, fun _ _ => rfl, rfl⟩ rfl .progress bob.user hinvitee)
  exact ⟨haccepted, hsame, hlisted, hsame'⟩

end PlayerCall

end PlayerHub
