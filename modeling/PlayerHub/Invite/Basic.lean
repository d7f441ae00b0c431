import PlayerHub.Data.NameMap
import PlayerHub.Player.Progress

namespace PlayerHub

open Json (Value)

/-- An invited player, as the inviter keeps record of them. -/
structure Invitee where
  name : String := ""
  claimed : Bool := false
  available : Bool := false
deriving DecidableEq, Repr

namespace Invitee

/-- The JSON form of an invitee. -/
def toJson (i : Invitee) : Value :=
  .ofMembers [("invitee", .str i.name), ("reward_claimed", .bool i.claimed),
    ("reward_available", .bool i.available)]

/-- Reads an invitee from its JSON form. -/
def ofJson? (v : Value) : Option Invitee := do
  let [name, claimed, available] ←
    v.fields? ["invitee", "reward_claimed", "reward_available"] | none
  return {
    name := ← Json.required Value.str? name
    claimed := ← Json.required Value.bool? claimed
    available := ← Json.required Value.bool? available }

end Invitee

/-- The invites of a player, in both directions: who has accepted an invite of the player, and whose
invite the player has accepted. -/
structure Invites where
  invitees : NameMap Invitee := ∅
  invited : Bool := false
  inviter : String := ""
deriving DecidableEq, Repr

namespace Invites

/-- The JSON form of invites. -/
def toJson (i : Invites) : Value :=
  .ofMembers [("invite_list", .ofMembers (i.invitees.map fun _ x => x.toJson).toList),
    ("be_invited", .bool i.invited), ("inviter", .str i.inviter)]

/-- Reads invites from their JSON form. -/
def ofJson? (v : Value) : Option Invites := do
  let [invitees, invited, inviter] ← v.fields? ["invite_list", "be_invited", "inviter"] | none
  return {
    invitees := .ofList (← Json.required (Value.entries? Invitee.ofJson?) invitees)
    invited := ← Json.required Value.bool? invited
    inviter := ← Json.required Value.str? inviter }

instance : Document Invites where
  collection := "user_data"
  key := "invite"
  fresh := {}
  toJson := toJson
  ofJson? := ofJson?

/-- The invites with a player added to those whom the player invited. -/
def add (i : Invites) (username : String) : Invites :=
  { i with invitees := i.invitees.insert username { name := username } }

/-- The invites of a player who has accepted an invite. -/
def acceptFrom (i : Invites) (inviter : String) : Invites :=
  { i with invited := true, inviter := inviter }

end Invites

end PlayerHub
