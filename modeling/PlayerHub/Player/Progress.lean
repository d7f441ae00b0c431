import PlayerHub.Player.Action

namespace PlayerHub

open Json (Value)

/-- How far a player has come: the level that the player is on, empty before the first. The names of
levels sort in the order of play. -/
structure Progress where
  level : String := ""
deriving DecidableEq, Repr

namespace Progress

/-- Whether the player has left a level behind. -/
def hasPassed (p : Progress) (level : String) : Bool := level < p.level

/-- The JSON form of progress. -/
def toJson (p : Progress) : Value := .ofMembers [("curLevelId", .str p.level)]

/-- Reads progress from its JSON form. -/
def ofJson? (v : Value) : Option Progress := do
  let [level] ← v.fields? ["curLevelId"] | none
  return ⟨← Json.required Value.str? level⟩

instance : Document Progress where
  collection := "Home"
  key := "HomeData"
  fresh := {}
  toJson := toJson
  ofJson? := ofJson?

/-- The progress of a user. -/
def load (user : UserId) : ActionM Progress := ActionM.ofStore (Store.load Progress user)

/-- Puts the level that a user is on on record. -/
def save (user : UserId) (level : String) : ActionM Unit :=
  ActionM.ofStore (Store.save user (⟨level⟩ : Progress))

end Progress

end PlayerHub
