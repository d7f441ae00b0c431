import PlayerHub.Proofs.Game.Basic
import PlayerHub.Proofs.Invite.Halfway

namespace PlayerHub

namespace Store

/-- Whether one store comes after another one: its journal goes on where the other one ends, and the
same calls are refused. -/
structure Precedes (s s' : Store) : Prop where
  gate : s'.gate = s.gate
  journal : s.journal <:+ s'.journal

/-- Whether no write in the journal has been refused. -/
def WritesPass (s : Store) : Prop :=
  ∀ caller batch earlier, .write caller batch :: earlier <:+ s.journal →
    s.gate earlier.length (.write caller batch) = none

variable {s s' s'' : Store}

namespace Precedes

theorem refl (s : Store) : s.Precedes s := ⟨rfl, List.suffix_rfl⟩

theorem trans (h : s.Precedes s') (h' : s'.Precedes s'') : s.Precedes s'' :=
  ⟨h'.gate.trans h.gate, h.journal.trans h'.journal⟩

end Precedes

theorem WritesPass.of_precedes (hpass : s'.WritesPass) (h : s.Precedes s') : s.WritesPass := by
  intro caller batch earlier hsuffix
  rw [← h.gate]
  exact hpass caller batch earlier (hsuffix.trans h.journal)

end Store

namespace Perform

/-- Whether an action adds to the journal only, however it ends. -/
def AddsToJournal {ε α : Type} (act : ExceptT ε (StateM Store) α) : Prop :=
  ∀ s : Store, s.Precedes (act s).2

namespace AddsToJournal

variable {ε α β : Type}

theorem pure (a : α) : AddsToJournal (pure a : ExceptT ε (StateM Store) α) :=
  fun s => Store.Precedes.refl s

theorem throw (e : ε) : AddsToJournal (throw e : ExceptT ε (StateM Store) α) :=
  fun s => Store.Precedes.refl s

theorem bind {act : ExceptT ε (StateM Store) α} {next : α → ExceptT ε (StateM Store) β}
    (hact : AddsToJournal act) (hnext : ∀ a, AddsToJournal (next a)) :
    AddsToJournal (act >>= next) := by
  intro s
  have hfirst := hact s
  cases hperform : act s with
  | mk answer s' =>
    rw [hperform] at hfirst
    cases answer with
    | error e =>
      rw [bind_of_error hperform]
      exact hfirst
    | ok a =>
      rw [bind_of_ok hperform]
      exact hfirst.trans (hnext a s')

theorem get_bind {next : Store → ExceptT ε (StateM Store) β}
    (hnext : ∀ s, AddsToJournal (next s)) : AddsToJournal (get >>= next) := fun s => hnext s s

theorem call (c : Call) (act : Storage → Except StoreError (α × Storage)) :
    AddsToJournal (Store.call c act) := by
  intro s
  have hnoted : s.Precedes (s.noting c) := ⟨rfl, List.suffix_cons c s.journal⟩
  rw [Store.call_eq]
  split
  · exact hnoted
  · split
    · exact hnoted
    · exact ⟨hnoted.gate, hnoted.journal⟩

variable (D : Type) [Document D]

theorem fetch (caller : Caller) (owner : Owner) : AddsToJournal (Store.fetch D caller owner) := by
  refine (call _ _).bind fun found => ?_
  split
  · exact pure _
  · refine get_bind fun s => ?_
    split
    · exact pure _
    · exact throw _

variable {D}

theorem store (owner : Owner) (d : D) : AddsToJournal (Store.store owner d) := by
  refine get_bind fun s => ?_
  split
  · exact throw _
  · exact call _ _

theorem ofStore {act : StoreM α} (hact : AddsToJournal act) :
    AddsToJournal (ActionM.ofStore act) := by
  intro s
  have hperform := hact s
  rw [ActionM.ofStore, StoreM.perform]
  split
  · rename_i hs
    rw [hs] at hperform
    exact hperform
  · rename_i hs
    rw [hs] at hperform
    exact hperform

theorem load (D : Type) [Document D] (user : UserId) :
    AddsToJournal (ActionM.ofStore (Store.load D user)) := ofStore (fetch D _ _)

theorem save (user : UserId) (d : D) : AddsToJournal (ActionM.ofStore (Store.save user d)) :=
  ofStore (store _ d)

theorem ofIdentity (answer : Except IdentityError α) :
    AddsToJournal (ActionM.ofIdentity answer) := by
  cases answer with
  | error e => exact throw _
  | ok a => exact pure a

theorem redeem (catalog : Catalog) (user : UserId) (code : String) (now : Calendar.Instant) :
    AddsToJournal (catalog.redeem user code now) := by
  refine (load Redeemed user).bind fun r => ?_
  split
  · exact pure _
  · split
    · exact pure _
    · exact (save user _).bind fun _ => pure _

theorem accept (directory : Directory) (user : UserId) (username share : String) :
    AddsToJournal (Invites.accept directory user username share) := by
  refine (load Invites user).bind fun mine => ?_
  split
  · exact pure _
  split
  · exact pure _
  refine (ofIdentity _).bind fun found => ?_
  split
  · exact pure _
  split
  · exact pure _
  refine (load Invites _).bind fun theirs => ?_
  exact (save _ _).bind fun _ => (save _ _).bind fun _ => pure _

theorem readyAmong (directory : Directory) (invitees : List Invitee) :
    AddsToJournal (Invites.readyAmong directory invitees) := by
  induction invitees with
  | nil => exact pure _
  | cons i invitees ih =>
    rw [Invites.readyAmong]
    split
    · exact ih
    · refine bind ?_ fun ready => ih.bind fun names => pure _
      refine (ofIdentity _).bind fun found => ?_
      split
      · exact pure _
      · exact (load Progress _).bind fun _ => pure _

theorem claim (user : UserId) (names : List String) :
    AddsToJournal (Invites.claim user names) := by
  refine (load Invites user).bind fun mine => ?_
  split
  · exact pure _
  · exact (save user _).bind fun _ => pure _

end AddsToJournal

end Perform

namespace Game

variable {g : Game}

theorem precedes_act {α : Type} {action : ActionM α} (h : Perform.AddsToJournal action)
    (answer : Except ActionError α → GameAnswer) :
    g.store.Precedes (g.act answer action).2.store := h g.store

/-- Whatever is asked of the game, it adds to the journal and leaves the gate alone. So the journal
at the end of a run tells which calls have been refused in it. -/
theorem precedes_next (c : GameCall) : g.store.Precedes (g.next c).store := by
  cases c with
  | signIn external username create fresh =>
    rw [next, perform]
    split
    · exact .refl g.store
    · exact .refl g.store
  | report user r =>
    exact precedes_act (.bind (.load Feedback user) fun f => .save user _) _
  | redeem catalog user code now => exact precedes_act (.redeem catalog user code now) _
  | accept user username share => exact precedes_act (.accept g.directory user username share) _
  | ready user =>
    exact precedes_act
      (.bind (.load Invites user) fun mine => .bind (.readyAmong _ _) fun names => .pure _) _
  | claim user names => exact precedes_act (.claim user names) _
  | progress user => exact precedes_act (.load Progress user) _
  | advance user level => exact precedes_act (.save user _) _

theorem precedes_run (calls : List GameCall) : g.store.Precedes (g.run calls).store := by
  induction calls generalizing g with
  | nil => exact .refl g.store
  | cons c calls ih => exact (precedes_next c).trans ih

/-- An accept leaves the storage as it is, or it stops between its two saves, or it is answered that
the invite is accepted. -/
theorem accept_next_cases (hcodec : g.store.codec = {}) (user : UserId)
    (username share : String) :
    let c := GameCall.accept user username share
    let g' := g.next c
    (g'.store.storage = g.store.storage ∧
        ∀ inviter, g.answer c ≠ .accept (.ok (.accepted inviter))) ∨
      ∃ inviter mine theirs,
        Invites.Acceptable g.directory user username share g.store.storage inviter mine theirs ∧
          ((∃ reason, g.answer c = .accept (.error (.store (.unavailable reason))) ∧
              g'.store.storage = g.store.storage.keep inviter.user (theirs.add username) ∧
              Invites.StopsBetween g.store g'.store user username inviter mine theirs reason) ∨
            (g.answer c = .accept (.ok (.accepted inviter.username)) ∧
              g'.store.storage = (g.store.storage.keep inviter.user (theirs.add username)).keep user
                (mine.acceptFrom inviter.username))) := by
  intro c g'
  obtain ⟨hstorage, hanswer⟩ | ⟨inviter, mine, theirs, h,
    ⟨reason, hanswer, hstorage, hstops⟩ | ⟨hanswer, hstorage⟩⟩ :=
    Invites.accept_cases g.directory user username share hcodec
  · refine .inl ⟨hstorage, fun inviter haccepted => hanswer inviter ?_⟩
    exact GameAnswer.accept.inj haccepted
  · exact .inr ⟨inviter, mine, theirs, h,
      .inl ⟨reason, congrArg GameAnswer.accept hanswer, hstorage, hstops⟩⟩
  · exact .inr ⟨inviter, mine, theirs, h,
      .inr ⟨congrArg GameAnswer.accept hanswer, hstorage⟩⟩

/-- The write that was refused is in the journal after an accept that stops between its saves. -/
theorem not_writesPass_of_stopsBetween {s s' : Store} {user : UserId} {username : String}
    {inviter : Account} {mine theirs : Invites} {reason : String} (hgate : s'.gate = s.gate)
    (hstops : Invites.StopsBetween s s' user username inviter mine theirs reason) :
    ¬ s'.WritesPass := by
  intro hpass
  rw [Store.WritesPass, hgate, hstops.journal] at hpass
  have hlast := hpass _ _ _ List.suffix_rfl
  cases hstops.refused.symm.trans hlast

end Game

end PlayerHub
