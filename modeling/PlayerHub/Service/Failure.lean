import PlayerHub.Player.Action
import PlayerHub.Session.Registry

namespace PlayerHub

/-- What failed in the server. -/
inductive ServerError where
  | store (e : StoreError)
  | identity (e : IdentityError)
  | session (e : SessionError)
  | action (e : ActionError)
  | settings (reason : String)
deriving DecidableEq, Repr

namespace ServerError

/-- The text of an error. -/
def message : ServerError → String
  | .store e => e.message
  | .identity e => e.message
  | .session e => e.message
  | .action e => e.message
  | .settings reason => "invalid configuration: " ++ reason

/-- The name of a kind of error, after the names of the parts that failed. -/
def kind : ServerError → String
  | .store e => "Store." ++ e.kind
  | .identity e => "Identity." ++ e.kind
  | .session e => "Session." ++ e.kind
  | .action e => "Feature." ++ e.kind
  | .settings _ => "Config"

/-- Whether the player who asks is at fault: the token is bad or no longer good, or the platform
refused the login code. -/
def isPlayersFault : ServerError → Bool
  | .session (.invalidToken _) => true
  | .session .expired => true
  | .session (.revoked _) => true
  | .identity (.provider ..) => true
  | _ => false

/-- The JSON form of an error. -/
def toJson (e : ServerError) : Json.Value :=
  .ofMembers [("error", .str e.kind), ("message", .str e.message),
    ("unauthenticated", .bool e.isPlayersFault)]

end ServerError

end PlayerHub
