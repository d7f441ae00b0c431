import PlayerHub.Json.Printer
import PlayerHub.Json.Reader
import PlayerHub.Uuid

namespace PlayerHub

open Json (Value)

/-- What a token says: which session of which user it belongs to, when it was issued and when it
expires. Times are seconds since the start of 1970. -/
structure Claims where
  session : String
  user : UserId
  username : String
  issuedAt : Int64
  expiry : Int64
deriving DecidableEq, Repr

namespace Claims

/-- The JSON form of claims. -/
def toJson (c : Claims) : Value :=
  .ofMembers [("tid", .str c.session), ("uid", c.user.toJson), ("usn", .str c.username),
    ("iat", .int c.issuedAt.toInt), ("exp", .int c.expiry.toInt)]

/-- Reads claims from their JSON form. -/
def ofJson? (v : Value) : Option Claims := do
  let [session, user, username, issuedAt, expiry] ←
    v.fields? ["tid", "uid", "usn", "iat", "exp"] | none
  return {
    session := ← Json.required Value.str? session
    user := ← Json.required Uuid.ofJson? user
    username := ← Json.required Value.str? username
    issuedAt := ← Json.required Value.int64? issuedAt
    expiry := ← Json.required Value.int64? expiry }

/-- The text of claims. -/
def print (c : Claims) : String := c.toJson.print

/-- The claims that a text writes. -/
def parse? (s : String) : Option Claims := (Value.parse? s).bind ofJson?

end Claims

end PlayerHub
