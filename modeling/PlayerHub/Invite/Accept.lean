import PlayerHub.Invite.Basic

namespace PlayerHub

/-- What comes of an attempt to accept an invite. -/
inductive AcceptOutcome where
  | accepted (inviter : String)
  | alreadyInvited
  | inviterNotFound
  | selfInvite
deriving DecidableEq, Repr

namespace AcceptOutcome

/-- The name of an outcome. -/
def name : AcceptOutcome → String
  | .accepted _ => "Accepted"
  | .alreadyInvited => "AlreadyInvited"
  | .inviterNotFound => "InviterNotFound"
  | .selfInvite => "SelfInvite"

/-- The number of an outcome. -/
def code : AcceptOutcome → Nat
  | .accepted _ => 0
  | .alreadyInvited => 1
  | .inviterNotFound => 2
  | .selfInvite => 3

/-- What players are told. -/
def message : AcceptOutcome → String
  | .accepted _ => "invite accepted"
  | .alreadyInvited => "already invited"
  | .inviterNotFound => "inviter not found"
  | .selfInvite => "cannot accept your own invite"

/-- What an outcome tells beyond its name. -/
def details : AcceptOutcome → List (String × Json.Value)
  | .accepted inviter => [("inviter", .str inviter)]
  | _ => []

/-- The JSON form of an outcome. -/
def toJson (o : AcceptOutcome) : Json.Value :=
  .ofMembers ([("outcome", .str o.name), ("code", .int o.code), ("message", .str o.message)] ++
    o.details)

end AcceptOutcome

/-- Accepts the invite of the player who shared the username `share`, on behalf of a user. A user
accepts one invite, and not their own. The inviter's document is written before the user's, so where
the second write fails the inviter lists the user already, who may accept again. -/
def Invites.accept (directory : Directory) (user : UserId) (username share : String) :
    ActionM AcceptOutcome := do
  let mine ← ActionM.ofStore (Store.load Invites user)
  if mine.invited then return .alreadyInvited
  else if share = username then return .selfInvite
  else
    match ← ActionM.ofIdentity (directory.lookUpName share) with
    | none => return .inviterNotFound
    | some inviter =>
      if inviter.user = user then return .selfInvite
      else
        let theirs ← ActionM.ofStore (Store.load Invites inviter.user)
        ActionM.ofStore (Store.save inviter.user (theirs.add username))
        ActionM.ofStore (Store.save user (mine.acceptFrom inviter.username))
        return .accepted inviter.username

end PlayerHub
