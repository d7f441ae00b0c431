import PlayerHub.Calendar.Written
import PlayerHub.Gift.Catalog
import PlayerHub.Player.Action

namespace PlayerHub

open Calendar (Instant)
open Json (Value)

/-- A redemption. -/
structure Redemption where
  code : String
  time : Instant
deriving DecidableEq, Repr

namespace Redemption

/-- The JSON form of a redemption. -/
def toJson (r : Redemption) : Value :=
  .ofMembers [("code", .str r.code), ("time", r.time.toJson)]

/-- Reads a redemption from its JSON form. -/
def ofJson? (v : Value) : Option Redemption := do
  let [code, time] ← v.fields? ["code", "time"] | none
  return {
    code := ← Json.required Value.str? code
    time := ← Json.required Instant.ofJson? time }

end Redemption

/-- What a player has redeemed. -/
structure Redeemed where
  records : NameMap Redemption := ∅
deriving DecidableEq, Repr

/-- What comes of an attempt to redeem a code. -/
inductive RedeemOutcome where
  | redeemed
  | alreadyRedeemed
  | invalidCode
deriving DecidableEq, Repr

namespace RedeemOutcome

/-- The name of an outcome. -/
def name : RedeemOutcome → String
  | .redeemed => "Redeemed"
  | .alreadyRedeemed => "AlreadyRedeemed"
  | .invalidCode => "InvalidCode"

/-- The number of an outcome. -/
def code : RedeemOutcome → Nat
  | .redeemed => 0
  | .alreadyRedeemed => 1
  | .invalidCode => 2

/-- What players are told. -/
def message : RedeemOutcome → String
  | .redeemed => "redeemed"
  | .alreadyRedeemed => "gift code already redeemed"
  | .invalidCode => "invalid gift code"

/-- The JSON form of an outcome. -/
def toJson (o : RedeemOutcome) : Value :=
  .ofMembers [("outcome", .str o.name), ("code", .int o.code), ("message", .str o.message)]

end RedeemOutcome

namespace Redeemed

/-- The JSON form of what a player has redeemed. -/
def toJson (r : Redeemed) : Value :=
  .ofMembers [("records", .ofMembers (r.records.map fun _ x => x.toJson).toList)]

/-- Reads what a player has redeemed from its JSON form. -/
def ofJson? (v : Value) : Option Redeemed := do
  let [records] ← v.fields? ["records"] | none
  let entries ← Json.required (Value.entries? Redemption.ofJson?) records
  return ⟨.ofList entries⟩

instance : Document Redeemed where
  collection := "user_data"
  key := "redeem"
  fresh := {}
  toJson := toJson
  ofJson? := ofJson?

/-- The record with the redemption of a code added. -/
def add (r : Redeemed) (code : String) (now : Instant) : Redeemed :=
  ⟨r.records.insert code ⟨code, now⟩⟩

end Redeemed

/-- Redeems a code for a user. Nothing is written unless the code is redeemed. -/
def Catalog.redeem (c : Catalog) (user : UserId) (code : String) (now : Instant) :
    ActionM RedeemOutcome := do
  let r ← ActionM.ofStore (Store.load Redeemed user)
  if (c.find? code).isNone then return .invalidCode
  else if r.records.contains code then return .alreadyRedeemed
  else
    ActionM.ofStore (Store.save user (r.add code now))
    return .redeemed

end PlayerHub
