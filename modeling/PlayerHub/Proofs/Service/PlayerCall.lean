import PlayerHub.Proofs.Document.Shelf
import PlayerHub.Proofs.Invite.Accept
import PlayerHub.Proofs.Invite.Reward
import PlayerHub.Service.Basic

namespace PlayerHub

/-- Something that a player asks of the server. -/
inductive PlayerCall where
  | report (content : String) (issues : Int32) (now : Calendar.Instant)
  | redeem (code : String) (now : Calendar.Instant)
  | accept (share : String)
  | ready
  | claim (names : List String)

namespace PlayerCall

/-- What a call is answered with if nothing fails. -/
def Answer : PlayerCall → Type
  | report .. => Unit
  | redeem .. => RedeemOutcome
  | accept .. => AcceptOutcome
  | ready => List String
  | claim .. => ClaimOutcome

/-- The kind of the document of the player that a call is about. -/
def kind : PlayerCall → DocumentKind
  | report .. => .feedback
  | redeem .. => .redeemed
  | accept .. | ready | claim .. => .invites

/-- The answer to a call, and the server after it. -/
def perform (c : PlayerCall) (p : Player) (s : Server) : Except ServerError c.Answer × Server :=
  match c with
  | report content issues now => (Server.submitFeedback p content issues now).perform s
  | redeem code now => (Server.redeem p code now).perform s
  | accept share => (Server.acceptInvite p share).perform s
  | ready => (Server.readyInvitees p).perform s
  | claim names => (Server.claimRewards p names).perform s

/-- What a call does to the documents. -/
def action (p : Player) (s : Server) : (c : PlayerCall) → ActionM c.Answer
  | report content issues now => Feedback.submit p.user content issues now
  | redeem code now => s.catalog.redeem p.user code now
  | accept share => Invites.accept s.directory p.user p.username share
  | ready => Invites.ready s.directory p.user
  | claim names => Invites.claim p.user names

private theorem perform_ofAction {α : Type} (act : ActionM α) (s : Server) :
    (ServerM.ofAction act).perform s =
      ((act.perform s.store).1.mapError .action, { s with store := (act.perform s.store).2 }) := by
  rw [ServerM.perform, ServerM.ofAction]
  split
  · rename_i heq
    rw [heq]
    rfl
  · rename_i heq
    rw [heq]
    rfl

/-- To the documents every call of a player is an action of its own, and the rest of the server
stays as it is. -/
theorem perform_eq (c : PlayerCall) (p : Player) (s : Server) :
    c.perform p s = (((c.action p s).perform s.store).1.mapError .action,
      { s with store := ((c.action p s).perform s.store).2 }) := by
  cases c with
  | report content issues now => exact perform_ofAction _ s
  | redeem code now => exact perform_ofAction _ s
  | accept share => exact perform_ofAction _ s
  | ready => exact perform_ofAction _ s
  | claim names => exact perform_ofAction _ s

/-- What a call may do to the documents: with which storage it may end. -/
inductive Effect (p : Player) (s : Server) : PlayerCall → Storage → Prop
  | report {content : String} {issues : Int32} {now : Calendar.Instant} {storage : Storage}
      {answer : Except ActionError Unit}
      (h : Feedback.SubmitEffect p.user ⟨content, issues, now⟩ s.store.storage answer storage) :
      Effect p s (.report content issues now) storage
  | redeem {code : String} {now : Calendar.Instant} {storage : Storage}
      {answer : Except ActionError RedeemOutcome}
      (h : s.catalog.RedeemEffect p.user code now s.store.storage answer storage) :
      Effect p s (.redeem code now) storage
  | accept {share : String} {storage : Storage} {answer : Except ActionError AcceptOutcome}
      (h : Invites.AcceptEffect s.directory p.user p.username share s.store.storage answer
        storage) :
      Effect p s (.accept share) storage
  | ready : Effect p s .ready s.store.storage
  | claim {names : List String} {storage : Storage} {answer : Except ActionError ClaimOutcome}
      (h : Invites.ClaimEffect p.user names s.store.storage answer storage) :
      Effect p s (.claim names) storage

theorem effect_action (c : PlayerCall) (p : Player) {s : Server} (hcodec : s.store.codec = {}) :
    c.Effect p s ((c.action p s).perform s.store).2.storage := by
  cases c with
  | report content issues now =>
    obtain ⟨answer, s', hperform, -, heffect⟩ :=
      Feedback.submit_effect p.user ⟨content, issues, now⟩ hcodec
    exact congrArg Prod.snd hperform ▸ .report heffect
  | redeem code now =>
    obtain ⟨answer, s', hperform, -, heffect⟩ := s.catalog.redeem_effect p.user code now hcodec
    exact congrArg Prod.snd hperform ▸ .redeem heffect
  | accept share =>
    obtain ⟨answer, s', hperform, -, heffect⟩ :=
      Invites.accept_effect s.directory p.user p.username share hcodec
    exact congrArg Prod.snd hperform ▸ .accept heffect
  | ready =>
    obtain ⟨answer, s', hperform, -, hstorage⟩ :=
      Invites.isQuiet_ready s.directory p.user s.store hcodec
    rw [show ((ready.action p s).perform s.store).2 = s' from congrArg Prod.snd hperform, hstorage]
    exact .ready
  | claim names =>
    obtain ⟨answer, s', hperform, -, heffect⟩ := Invites.claim_effect p.user names hcodec
    exact congrArg Prod.snd hperform ▸ .claim heffect

end PlayerCall

end PlayerHub
