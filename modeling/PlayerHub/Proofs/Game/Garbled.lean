import PlayerHub.Proofs.Document.Shelf
import PlayerHub.Proofs.Game.Failure

namespace PlayerHub

namespace Storage

/-- Whether a user's document is garbled: the user may read it, and the text is no document of its
kind. -/
def IsGarbled (D : Type) [Document D] (s : Storage) (user : UserId) : Prop :=
  ∃ content, s.stored? D user = some content ∧ content.read ≠ .noRead ∧
    Document.decode? D content.value = none

/-- Whether every garbled document is still there as it was. -/
def Spares (s s' : Storage) : Prop :=
  ∀ (kind : DocumentKind) (user : UserId), s.IsGarbled kind.Carrier user →
    s'.stored? kind.Carrier user = s.stored? kind.Carrier user

variable {s s' s'' : Storage} {user : UserId}

theorem look_of_isGarbled {D : Type} [Document D] (hgarbled : s.IsGarbled D user) :
    ∃ cause, s.look D user = .error (.corrupt (Document.collection D) (Document.key D) cause) := by
  obtain ⟨content, hstored, hread, hdecode⟩ := hgarbled
  have hshown : ¬ s.Conceals D user := by
    rintro ⟨content', hstored', hhidden⟩
    cases hstored.symm.trans hstored'
    exact hread hhidden
  rw [look_of_not_conceals hshown hstored, Document.read, hdecode]
  exact ⟨_, rfl⟩

namespace Spares

theorem refl (s : Storage) : s.Spares s := fun _ _ _ => rfl

theorem isGarbled (h : s.Spares s') {kind : DocumentKind}
    (hgarbled : s.IsGarbled kind.Carrier user) : s'.IsGarbled kind.Carrier user := by
  obtain ⟨content, hstored, hread, hdecode⟩ := hgarbled
  exact ⟨content, (h kind user ⟨content, hstored, hread, hdecode⟩).trans hstored, hread, hdecode⟩

theorem trans (h : s.Spares s') (h' : s'.Spares s'') : s.Spares s'' :=
  fun kind user hgarbled => (h' kind user (h.isGarbled hgarbled)).trans (h kind user hgarbled)

/-- A document that could be read may be written over. -/
theorem of_rewrites (kind : DocumentKind) (h : s.Rewrites kind.Carrier user s') : s.Spares s' := by
  cases h with
  | same => exact .refl s
  | saved hlook d' =>
    intro kind' user' hgarbled
    apply get?_keep_of_ne
    intro hplace
    have hslot : (⟨kind', .user user'⟩ : Slot) = ⟨kind, .user user⟩ :=
      Slot.place_injective hplace
    cases hslot
    obtain ⟨cause, herror⟩ := look_of_isGarbled hgarbled
    cases hlook.symm.trans herror

end Spares

end Storage

theorem Invites.AcceptEffect.spares {directory : Directory} {user : UserId}
    {username share : String} {s s' : Storage} {answer : Except ActionError AcceptOutcome}
    (heffect : AcceptEffect directory user username share s answer s') : s.Spares s' := by
  obtain rfl | ⟨inviter, s₁, -, htheirs, hmine⟩ := heffect.rewrites
  · exact .refl s'
  · exact (Storage.Spares.of_rewrites .invites htheirs).trans (.of_rewrites .invites hmine)

namespace Store

/-- Whether an object has been read from one store to a later one: a call that asks for it is in the
journal, and it was not refused. -/
def Reads (s s' : Store) (id : ObjectId) : Prop :=
  ∃ caller ids earlier, id ∈ ids ∧ s.journal <:+ earlier ∧
    .read caller ids :: earlier <:+ s'.journal ∧ s.gate earlier.length (.read caller ids) = none

variable {s s' s'' : Store} {id : ObjectId}

theorem not_reads_of_journal_eq (hjournal : s'.journal = s.journal) : ¬ s.Reads s' id := by
  rintro ⟨caller, ids, earlier, -, hlater, hnoted, -⟩
  rw [hjournal] at hnoted
  have hlength := hlater.length_le
  have hlength' := hnoted.length_le
  rw [List.length_cons] at hlength'
  omega

/-- Of one call, it is the call that has read. -/
theorem Reads.of_noted {c : Call} (hreads : s.Reads s' id)
    (hjournal : s'.journal = c :: s.journal) :
    ∃ caller ids, c = .read caller ids ∧ id ∈ ids ∧ s.gate s.journal.length c = none := by
  obtain ⟨caller, ids, earlier, hmem, hlater, hnoted, hpassed⟩ := hreads
  rw [hjournal, List.suffix_cons_iff] at hnoted
  obtain hlast | hbefore := hnoted
  · obtain ⟨rfl, rfl⟩ := List.cons.inj hlast
    exact ⟨caller, ids, rfl, hmem, hpassed⟩
  · have hlength := hlater.length_le
    have hlength' := hbefore.length_le
    rw [List.length_cons] at hlength'
    omega

/-- What has been read has been read before or after any moment. -/
theorem Reads.before_or_after (hreads : s.Reads s'' id) (hbefore : s.Precedes s')
    (hafter : s'.Precedes s'') : s.Reads s' id ∨ s'.Reads s'' id := by
  obtain ⟨caller, ids, earlier, hmem, hlater, hnoted, hpassed⟩ := hreads
  obtain hold | hnew := List.suffix_or_suffix_of_suffix hnoted hafter.journal
  · exact .inl ⟨caller, ids, earlier, hmem, hlater, hold, hpassed⟩
  · rw [List.suffix_cons_iff] at hnew
    obtain hlast | hnew := hnew
    · exact .inl ⟨caller, ids, earlier, hmem, hlater, hlast ▸ List.suffix_rfl, hpassed⟩
    · exact .inr ⟨caller, ids, earlier, hmem, hnew, hnoted, hbefore.gate ▸ hpassed⟩

theorem Reads.of_precedes (hreads : s'.Reads s'' id) (hbefore : s.Precedes s') :
    s.Reads s'' id := by
  obtain ⟨caller, ids, earlier, hmem, hlater, hnoted, hpassed⟩ := hreads
  exact ⟨caller, ids, earlier, hmem, hbefore.journal.trans hlater, hnoted, hbefore.gate ▸ hpassed⟩

theorem Reads.mono (hreads : s.Reads s' id) (hafter : s'.Precedes s'') : s.Reads s'' id := by
  obtain ⟨caller, ids, earlier, hmem, hlater, hnoted, hpassed⟩ := hreads
  exact ⟨caller, ids, earlier, hmem, hlater, hnoted.trans hafter.journal, hpassed⟩

end Store

namespace ActionM

open Perform (AddsToJournal)

variable {α β : Type}

/-- Whether an action reads nothing, however it ends. -/
structure IsBlind (act : ActionM α) : Prop where
  adds : AddsToJournal act
  blind : ∀ s : Store, s.codec = {} → (act s).2.codec = {} ∧ ∀ id, ¬ s.Reads (act s).2 id

/-- Whether an action that comes upon a garbled document tells so, and has changed nothing. -/
structure Heeds (act : ActionM α) : Prop where
  adds : AddsToJournal act
  tells : ∀ s : Store, s.codec = {} → s.storage.online = true →
    ∀ (kind : DocumentKind) (user : UserId), s.storage.IsGarbled kind.Carrier user →
      s.Reads (act s).2 (Store.place kind.Carrier (.user user)) →
        (∃ cause, (act s).1 = .error (.store
          (.corrupt (Document.collection kind.Carrier) (Document.key kind.Carrier) cause))) ∧
          (act s).2.storage = s.storage

namespace IsBlind

theorem pure (a : α) : IsBlind (pure a : ActionM α) where
  adds := .pure a
  blind := fun _ hcodec => ⟨hcodec, fun _ => Store.not_reads_of_journal_eq rfl⟩

theorem save {D : Type} [Document D] (user : UserId) (d : D) :
    IsBlind (ofStore (Store.save user d)) where
  adds := .save user d
  blind := by
    intro s hcodec
    have hafter : (ofStore (Store.save user d) s).2.codec = {} ∧
        (ofStore (Store.save user d) s).2.journal = Store.saving user d :: s.journal := by
      cases hrefusal : s.refusal? (Store.saving user d) with
      | some e =>
        rw [save_of_refusal hcodec hrefusal]
        exact ⟨hcodec, rfl⟩
      | none =>
        rw [save_of_passes hcodec hrefusal]
        exact ⟨hcodec, rfl⟩
    refine ⟨hafter.1, fun id hreads => ?_⟩
    obtain ⟨caller, ids, hcall, -⟩ := hreads.of_noted hafter.2
    cases hcall

theorem bind {act : ActionM α} {next : α → ActionM β} (hact : act.IsBlind)
    (hnext : ∀ a, (next a).IsBlind) : IsBlind (act >>= next) where
  adds := hact.adds.bind fun a => (hnext a).adds
  blind := by
    intro s hcodec
    have hfirst := hact.blind s hcodec
    have hbefore := hact.adds s
    cases hperform : act s with
    | mk answer s' =>
      rw [hperform] at hfirst hbefore
      cases answer with
      | error e =>
        rw [Perform.bind_of_error hperform]
        exact hfirst
      | ok a =>
        rw [Perform.bind_of_ok hperform]
        obtain ⟨hcodec', hnot⟩ := hfirst
        obtain ⟨hcodec'', hnot'⟩ := (hnext a).blind s' hcodec'
        refine ⟨hcodec'', fun id hreads => ?_⟩
        obtain hread | hread := hreads.before_or_after hbefore ((hnext a).adds s')
        · exact hnot id hread
        · exact hnot' id hread

end IsBlind

namespace Heeds

theorem of_isBlind {act : ActionM α} (hact : act.IsBlind) : act.Heeds where
  adds := hact.adds
  tells := fun s hcodec _ _ _ _ hreads => absurd hreads ((hact.blind s hcodec).2 _)

theorem pure (a : α) : Heeds (pure a : ActionM α) := of_isBlind (.pure a)

theorem ofIdentity (answer : Except IdentityError α) : Heeds (ofIdentity answer) where
  adds := .ofIdentity answer
  tells := by
    intro s _ _ kind user _ hreads
    cases answer with
    | error e => exact absurd hreads (Store.not_reads_of_journal_eq rfl)
    | ok a => exact absurd hreads (Store.not_reads_of_journal_eq rfl)

theorem load (kind : DocumentKind) (user : UserId) :
    Heeds (ofStore (Store.load kind.Carrier user)) where
  adds := .load kind.Carrier user
  tells := by
    intro s hcodec honline kind' user' hgarbled hreads
    rw [load_eq hcodec] at hreads ⊢
    obtain ⟨caller, ids, hcall, hmem, hpassed⟩ := hreads.of_noted rfl
    obtain ⟨-, rfl⟩ := Call.read.inj hcall
    have hslot : (⟨kind', .user user'⟩ : Slot) = ⟨kind, .user user⟩ :=
      Slot.place_injective (List.mem_singleton.1 hmem)
    cases hslot
    obtain ⟨cause, hlook⟩ := Storage.look_of_isGarbled hgarbled
    rw [Store.refusal?_eq_none_iff.2 ⟨hpassed, honline⟩, hlook]
    exact ⟨⟨cause, rfl⟩, rfl⟩

/-- An action that starts by looking around goes on where nothing has changed. -/
theorem bind {act : ActionM α} {next : α → ActionM β} (hact : act.Heeds) (hquiet : act.IsQuiet)
    (hnext : ∀ a, (next a).Heeds) : Heeds (act >>= next) where
  adds := hact.adds.bind fun a => (hnext a).adds
  tells := by
    intro s hcodec honline kind user hgarbled hreads
    have htells := hact.tells s hcodec honline kind user hgarbled
    have hbefore := hact.adds s
    obtain ⟨answer, s', hperform, hlike, hstorage⟩ := hquiet s hcodec
    rw [hperform] at htells hbefore
    cases answer with
    | error e =>
      rw [Perform.bind_of_error hperform] at hreads ⊢
      obtain ⟨⟨cause, herror⟩, -⟩ := htells hreads
      cases herror
      exact ⟨⟨cause, rfl⟩, hstorage⟩
    | ok a =>
      rw [Perform.bind_of_ok hperform] at hreads ⊢
      obtain hfirst | hsecond := hreads.before_or_after hbefore ((hnext a).adds s')
      · obtain ⟨⟨cause, herror⟩, -⟩ := htells hfirst
        cases herror
      · rw [← hstorage] at honline hgarbled ⊢
        exact (hnext a).tells s' (hlike.codec.trans hcodec) honline kind user hgarbled hsecond

theorem bind_load (kind : DocumentKind) (user : UserId) {next : kind.Carrier → ActionM β}
    (hnext : ∀ d, (next d).Heeds) :
    Heeds (ofStore (Store.load kind.Carrier user) >>= next) :=
  (load kind user).bind (.load kind.Carrier user) hnext

theorem bind_ofIdentity (answer : Except IdentityError α) {next : α → ActionM β}
    (hnext : ∀ a, (next a).Heeds) : Heeds (ActionM.ofIdentity answer >>= next) :=
  (ofIdentity answer).bind (.ofIdentity answer) hnext

theorem isReady (directory : Directory) (i : Invitee) : Heeds (Invites.isReady directory i) := by
  refine bind_ofIdentity _ fun found => ?_
  split
  · exact .pure _
  · exact bind_load .progress _ fun _ => .pure _

theorem readyAmong (directory : Directory) (invitees : List Invitee) :
    Heeds (Invites.readyAmong directory invitees) := by
  induction invitees with
  | nil => exact .pure _
  | cons i invitees ih =>
    rw [Invites.readyAmong]
    split
    · exact ih
    · exact (isReady directory i).bind (Invites.isQuiet_isReady directory i) fun _ =>
        ih.bind (Invites.isQuiet_readyAmong directory invitees) fun _ => .pure _

end Heeds

/-- What a first action has read, it has read whatever comes after it. -/
theorem reads_bind_of_first {act : ActionM α} {next : α → ActionM β} {s : Store} {id : ObjectId}
    (hreads : s.Reads (act s).2 id) (hnext : ∀ a, AddsToJournal (next a)) :
    s.Reads ((act >>= next) s).2 id := by
  cases hperform : act s with
  | mk answer s' =>
    rw [hperform] at hreads
    cases answer with
    | error e =>
      rw [Perform.bind_of_error hperform]
      exact hreads
    | ok a =>
      rw [Perform.bind_of_ok hperform]
      exact hreads.mono (hnext a s')

/-- What comes after a first action has read, the two have read. -/
theorem reads_bind_of_ok {act : ActionM α} {next : α → ActionM β} {s s' : Store} {a : α}
    {id : ObjectId} (hact : AddsToJournal act) (hperform : act s = (.ok a, s'))
    (hreads : s'.Reads (next a s').2 id) : s.Reads ((act >>= next) s).2 id := by
  have hbefore := hact s
  rw [hperform] at hbefore
  rw [Perform.bind_of_ok hperform]
  exact hreads.of_precedes hbefore

/-- Whether an action first of all loads a document of a user, and heeds garbled documents from then
on. -/
def LoadsFirst (kind : DocumentKind) (user : UserId) (act : ActionM α) : Prop :=
  ∃ next, act = (ofStore (Store.load kind.Carrier user) >>= next) ∧ ∀ d, (next d).Heeds

namespace LoadsFirst

variable {kind : DocumentKind} {user : UserId} {act : ActionM α}

theorem heeds (hact : LoadsFirst kind user act) : act.Heeds := by
  obtain ⟨next, rfl, hnext⟩ := hact
  exact .bind_load kind user hnext

/-- The document that is loaded first is read if the call is let through. -/
theorem reads (hact : LoadsFirst kind user act) {s : Store} (hcodec : s.codec = {})
    (hpassed : s.gate s.journal.length (Store.loading kind.Carrier user) = none) :
    s.Reads (act s).2 (Store.place kind.Carrier (.user user)) := by
  obtain ⟨next, rfl, hnext⟩ := hact
  refine reads_bind_of_first ?_ fun d => (hnext d).adds
  rw [load_eq hcodec]
  exact ⟨_, _, s.journal, List.mem_singleton_self _, List.suffix_rfl, List.suffix_rfl, hpassed⟩

theorem submit (user : UserId) (content : String) (issues : Int32) (now : Calendar.Instant) :
    LoadsFirst .feedback user (Feedback.submit user content issues now) :=
  ⟨_, rfl, fun _ => .of_isBlind (.save user _)⟩

theorem redeem (catalog : Catalog) (user : UserId) (code : String) (now : Calendar.Instant) :
    LoadsFirst .redeemed user (catalog.redeem user code now) := by
  refine ⟨_, rfl, fun r => ?_⟩
  split
  · exact .pure _
  · split
    · exact .pure _
    · exact .of_isBlind ((IsBlind.save user _).bind fun _ => .pure _)

/-- An accept that has come to the inviter reads nothing any more after the inviter's invites. -/
theorem acceptFrom (inviter : Account) (user : UserId) (username : String) (mine : Invites) :
    LoadsFirst .invites inviter.user (do
      let theirs ← ofStore (Store.load Invites inviter.user)
      ofStore (Store.save inviter.user (theirs.add username))
      ofStore (Store.save user (mine.acceptFrom inviter.username))
      return AcceptOutcome.accepted inviter.username) :=
  ⟨_, rfl, fun _ =>
    .of_isBlind ((IsBlind.save _ _).bind fun _ => (IsBlind.save _ _).bind fun _ => .pure _)⟩

theorem accept (directory : Directory) (user : UserId) (username share : String) :
    LoadsFirst .invites user (Invites.accept directory user username share) := by
  refine ⟨_, rfl, fun mine => ?_⟩
  split
  · exact .pure _
  split
  · exact .pure _
  refine .bind_ofIdentity _ fun found => ?_
  split
  · exact .pure _
  split
  · exact .pure _
  exact (acceptFrom _ user username mine).heeds

theorem ready (directory : Directory) (user : UserId) :
    LoadsFirst .invites user (Invites.ready directory user) :=
  ⟨_, rfl, fun _ => (Heeds.readyAmong directory _).bind (Invites.isQuiet_readyAmong directory _)
    fun _ => .pure _⟩

theorem claim (user : UserId) (names : List String) :
    LoadsFirst .invites user (Invites.claim user names) := by
  refine ⟨_, rfl, fun mine => ?_⟩
  split
  · exact .pure _
  · exact .of_isBlind ((IsBlind.save user _).bind fun _ => .pure _)

end LoadsFirst

end ActionM

namespace Invites

open ActionM (LoadsFirst)

variable {directory : Directory} {s : Store} {user : UserId} {account : Account} {mine : Invites}

/-- An accept that gets as far reads the invites of the inviter. -/
theorem reads_inviter {username share : String} (hopen : s.IsOpen)
    (houtage : directory.outage = none) (hmine : s.storage.look Invites user = .ok mine)
    (hnew : mine.invited = false) (hshare : share ≠ username)
    (hnamed : directory.named? share = some account)
    (huser : account.user ≠ user) :
    s.Reads ((accept directory user username share).perform s).2
      (Store.place Invites (.user account.user)) := by
  obtain ⟨s', hopen', -, hload⟩ := ActionM.load_of_isOpen hopen hmine
  refine ActionM.reads_bind_of_ok (.load Invites user) hload ?_
  simp only [hnew, Bool.false_eq_true, if_false, hshare, Directory.lookUpName, Directory.answer,
    houtage, hnamed]
  refine ActionM.reads_bind_of_ok (.ofIdentity _) (ActionM.ofIdentity_ok _ s') ?_
  simp only [huser, if_false]
  exact (LoadsFirst.acceptFrom account user username mine).reads hopen'.codec (hopen'.gate _ _)

theorem reads_isReady {x : Invitee} (hopen : s.IsOpen) (houtage : directory.outage = none)
    (hnamed : directory.named? x.name = some account) :
    s.Reads (isReady directory x s).2 (Store.place Progress (.user account.user)) := by
  have hrest : LoadsFirst .progress account.user (do
      let progress ← ActionM.ofStore (Store.load Progress account.user)
      return progress.hasPassed rewardLevel) := ⟨_, rfl, fun _ => .pure _⟩
  rw [isReady, Directory.lookUpName, Directory.answer, houtage, hnamed]
  exact hrest.reads hopen.codec (hopen.gate _ _)

/-- The progress of an unclaimed invitee is read if that of the invitees before can be read. -/
theorem reads_readyAmong {before after : List Invitee} {x : Invitee} (hopen : s.IsOpen)
    (houtage : directory.outage = none) (hunclaimed : x.claimed = false)
    (hnamed : directory.named? x.name = some account)
    (hbefore : ∀ y ∈ before, y.claimed = false → ∀ account,
      directory.named? y.name = some account →
        ∃ p, s.storage.look Progress account.user = .ok p) :
    s.Reads (readyAmong directory (before ++ x :: after) s).2
      (Store.place Progress (.user account.user)) := by
  induction before generalizing s with
  | nil =>
    rw [List.nil_append, readyAmong, hunclaimed, if_neg Bool.false_ne_true]
    exact ActionM.reads_bind_of_first (reads_isReady hopen houtage hnamed)
      fun _ => .bind (.readyAmong directory after) fun _ => .pure _
  | cons y before ih =>
    rw [List.cons_append, readyAmong]
    have hrest : ∀ z ∈ before, z.claimed = false → ∀ account,
        directory.named? z.name = some account →
          ∃ p, s.storage.look Progress account.user = .ok p :=
      fun z hz => hbefore z (List.mem_cons_of_mem y hz)
    cases hclaimed : y.claimed with
    | true => exact ih hopen hrest
    | false =>
      obtain ⟨s', hopen', hstorage, hready⟩ :=
        isReady_of_isOpen y hopen houtage (hbefore y List.mem_cons_self hclaimed)
      rw [if_neg Bool.false_ne_true]
      refine ActionM.reads_bind_of_ok (ActionM.Heeds.isReady directory y).adds hready ?_
      exact ActionM.reads_bind_of_first (ih hopen' (hstorage ▸ hrest)) fun _ => .pure _

/-- The list of what is ready reads the progress of an unclaimed invitee if that of the invitees
before can be read. -/
theorem reads_invitee {before after : List Invitee} {x : Invitee} (hopen : s.IsOpen)
    (houtage : directory.outage = none) (hmine : s.storage.look Invites user = .ok mine)
    (hlist : mine.invitees.values = before ++ x :: after) (hunclaimed : x.claimed = false)
    (hnamed : directory.named? x.name = some account)
    (hbefore : ∀ y ∈ before, y.claimed = false → ∀ account,
      directory.named? y.name = some account →
        ∃ p, s.storage.look Progress account.user = .ok p) :
    s.Reads ((ready directory user).perform s).2 (Store.place Progress (.user account.user)) := by
  obtain ⟨s', hopen', hstorage, hload⟩ := ActionM.load_of_isOpen hopen hmine
  refine ActionM.reads_bind_of_ok (.load Invites user) hload ?_
  rw [hlist]
  exact ActionM.reads_bind_of_first
    (reads_readyAmong hopen' houtage hunclaimed hnamed (hstorage ▸ hbefore)) fun _ => .pure _

end Invites

end PlayerHub
