import PlayerHub.Invite.Basic

namespace PlayerHub

/-- What comes of an attempt to claim rewards. -/
inductive ClaimOutcome where
  | claimed (newly : Nat)
  | unknownInvitee (name : String)
deriving DecidableEq, Repr

namespace ClaimOutcome

/-- The name of an outcome. -/
def name : ClaimOutcome → String
  | .claimed _ => "Claimed"
  | .unknownInvitee _ => "UnknownInvitee"

/-- The number of an outcome. -/
def code : ClaimOutcome → Nat
  | .claimed _ => 0
  | .unknownInvitee _ => 1

/-- What players are told. -/
def message : ClaimOutcome → String
  | .claimed _ => "rewards claimed"
  | .unknownInvitee _ => "invitee not in invite list"

/-- What an outcome tells beyond its name. -/
def details : ClaimOutcome → List (String × Json.Value)
  | .claimed newly => [("newly_claimed", .int newly)]
  | .unknownInvitee name => [("invitee", .str name)]

/-- The JSON form of an outcome. -/
def toJson (o : ClaimOutcome) : Json.Value :=
  .ofMembers ([("outcome", .str o.name), ("code", .int o.code), ("message", .str o.message)] ++
    o.details)

end ClaimOutcome

namespace Invites

/-- The level that an invitee has to leave behind before the reward is due. -/
def rewardLevel : String := "L1001"

/-- Whether the reward for an invitee is due. That is not so for one who has no account. -/
def isReady (directory : Directory) (i : Invitee) : ActionM Bool := do
  match ← ActionM.ofIdentity (directory.lookUpName i.name) with
  | none => return false
  | some account =>
    let progress ← ActionM.ofStore (Store.load Progress account.user)
    return progress.hasPassed rewardLevel

/-- The names of the invitees in a list whose reward is due and not claimed yet, in the order of the
list. -/
def readyAmong (directory : Directory) : List Invitee → ActionM (List String)
  | [] => return []
  | i :: is =>
    if i.claimed then readyAmong directory is
    else do
      let ready ← isReady directory i
      let names ← readyAmong directory is
      return if ready then i.name :: names else names

/-- The names of a user's invitees whose reward is due and not claimed yet, in ascending order. -/
def ready (directory : Directory) (user : UserId) : ActionM (List String) := do
  let mine ← ActionM.ofStore (Store.load Invites user)
  let names ← readyAmong directory mine.invitees.values
  return names.mergeSort

/-- The invites with the reward for one invitee claimed, and the number of rewards claimed by
that. -/
def claimOne (i : Invites) (name : String) : Invites × Nat :=
  match i.invitees.get? name with
  | some invitee =>
    if invitee.claimed then (i, 0)
    else ({ i with invitees := i.invitees.insert name { invitee with claimed := true } }, 1)
  | none => (i, 0)

/-- The invites with the rewards for some invitees claimed, and the number of rewards claimed by
that. -/
def claimAll (i : Invites) : List String → Invites × Nat
  | [] => (i, 0)
  | name :: names =>
    let (i, n) := i.claimOne name
    let (i, m) := i.claimAll names
    (i, n + m)

/-- Claims the rewards for some invitees of a user, all of those that are asked for or none. Whether
they are due is not looked at. -/
def claim (user : UserId) (names : List String) : ActionM ClaimOutcome := do
  let mine ← ActionM.ofStore (Store.load Invites user)
  match names.find? fun name => !mine.invitees.contains name with
  | some name => return .unknownInvitee name
  | none =>
    let (mine, newly) := mine.claimAll names
    ActionM.ofStore (Store.save user mine)
    return .claimed newly

end Invites

end PlayerHub
