import PlayerHub.Proofs.Json.Record
import PlayerHub.Proofs.Uuid
import PlayerHub.Session.Token

namespace PlayerHub

open Json (Value)

namespace Claims

private theorem nodup_members (c : Claims) :
    ([("tid", Value.str c.session), ("uid", c.user.toJson), ("usn", .str c.username),
      ("iat", .int c.issuedAt.toInt), ("exp", .int c.expiry.toInt)].map (·.1)).Nodup := by
  simp only [List.map_cons, List.map_nil]
  decide

/-- Claims are read back from their JSON form. -/
@[simp] theorem ofJson?_toJson (c : Claims) : ofJson? c.toJson = some c := by
  rw [ofJson?, toJson, Value.fields?_ofMembers (nodup_members c)]
  simp [List.lookup_cons, Json.required]

/-- The expiry counts if it is not negative, and the claims are meant for nobody in particular. -/
theorem registered?_toJson (c : Claims) :
    Token.registered? c.toJson = some (decide (0 ≤ c.expiry), false) := by
  have hselect := Value.select?_map_some (nodup_members c) ["exp", "nbf", "sub", "iss", "aud"]
  rw [toJson, Value.ofMembers, Token.registered?, hselect]
  simp [List.lookup_cons, Value.isSome_uint64?_int_toInt]

end Claims

end PlayerHub
