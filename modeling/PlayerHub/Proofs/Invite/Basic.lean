import PlayerHub.Invite.Basic
import PlayerHub.Proofs.Data.NameMap
import PlayerHub.Proofs.Document.Basic
import PlayerHub.Proofs.Json.Record

namespace PlayerHub

@[simp] theorem Invitee.ofJson?_toJson (i : Invitee) : ofJson? i.toJson = some i := by
  rw [ofJson?, toJson, Json.Value.fields?_ofMembers (by simp)]
  simp [List.lookup_cons, Json.required]

namespace Invites

/-- The JSON form of invites with the given entries for the players who were invited, in that
order. -/
def spelled (i : Invites) (entries : List (String × Invitee)) : Json.Value :=
  .ofMembers [("invite_list", .ofMembers (entries.map fun e => (e.1, e.2.toJson))),
    ("be_invited", .bool i.invited), ("inviter", .str i.inviter)]

theorem ofJson?_spelled {i : Invites} {entries : List (String × Invitee)}
    (horder : entries.Perm i.invitees.toList) : ofJson? (i.spelled entries) = some i := by
  have hentries := Json.Value.entries?_ofMembers Invitee.ofJson?_toJson entries
  rw [ofJson?, spelled, Json.Value.fields?_ofMembers (by simp)]
  simp [List.lookup_cons, Json.required, hentries, NameMap.ofList_of_perm horder]

@[simp] theorem ofJson?_toJson (i : Invites) : ofJson? i.toJson = some i :=
  ofJson?_spelled (.refl i.invitees.toList)

instance : LawfulDocument Invites where
  ofJson?_toJson := ofJson?_toJson

/-- Whether the reward for a player has been claimed, if the player is in the list. -/
def claimed? (i : Invites) (name : String) : Option Bool := (i.invitees.get? name).map (·.claimed)

/-- A player who is added is in the list without a claimed reward, also one who was there. -/
theorem claimed?_add (i : Invites) (username name : String) :
    (i.add username).claimed? name = if name = username then some false else i.claimed? name := by
  rw [claimed?, add, NameMap.get?_insert]
  by_cases hname : name = username
  · rw [if_pos hname, if_pos hname]
    rfl
  · rw [if_neg hname, if_neg hname]
    rfl

@[simp] theorem claimed?_acceptFrom (i : Invites) (inviter name : String) :
    (i.acceptFrom inviter).claimed? name = i.claimed? name := rfl

/-- Whether invites have changed in one entry only, which is now that of a player who has just been
added. -/
structure AddsEntry (username : String) (before after : Invites) : Prop where
  entry : after.invitees.get? username = some { name := username }
  entries : ∀ name, name ≠ username → after.invitees.get? name = before.invitees.get? name
  invited : after.invited = before.invited
  inviter : after.inviter = before.inviter

theorem addsEntry_add (i : Invites) (username : String) :
    AddsEntry username i (i.add username) where
  entry := by rw [add, NameMap.get?_insert, if_pos rfl]
  entries := by
    intro name hname
    rw [add, NameMap.get?_insert, if_neg hname]
  invited := rfl
  inviter := rfl

end Invites

end PlayerHub
