import PlayerHub.Platform.Exchange
import PlayerHub.Proofs.Json.RoundTrip

namespace PlayerHub

/-- The network on which every request is answered with the text of a value. -/
def Network.answering (v : Json.Value) : Network :=
  fun _ => .answer 200 (.ok (Utf8.encode v.printChars))

namespace Platform

open Json (Value)

theorem readBody?_encode_printChars (p : Platform) (v : Value) :
    p.readBody? (Utf8.encode v.printChars) = p.verdict? v := by
  have hparse : Value.parse? (String.ofList v.printChars) = some v := Value.parse?_print v
  rw [readBody?, Utf8.decodeLossy_encode, hparse]
  rfl

/-- A platform that answers with a value is taken at its word. -/
theorem exchange_answering {p : Platform} {s : PlatformSettings} {c : LoginCode} {v : Value}
    {verdict : Verdict} (hrequest : (p.request? s c).isSome = true)
    (hverdict : p.verdict? v = some verdict) :
    p.exchange s (.answering v) c = p.judge verdict := by
  obtain ⟨request, hrequest⟩ := Option.isSome_iff_exists.1 hrequest
  have hresolve : p.resolve (Network.answering v request) = p.judge verdict := by
    rw [Network.answering, resolve, if_pos (by omega), readBody?_encode_printChars, hverdict]
  rw [exchange, hrequest]
  exact hresolve

/-- The answer with which a platform gives an id. -/
def giving (p : Platform) (openid : String) : Value :=
  match p with
  | .wechat => .ofMembers [("openid", .str openid)]
  | .tiktok => .ofMembers [("err_no", .int 0), ("data", .ofMembers [("openid", .str openid)])]

theorem verdict?_giving (p : Platform) (openid : String) :
    p.verdict? (p.giving openid) = some ⟨0, "", openid⟩ := by
  cases p with
  | wechat => rfl
  | tiktok => rfl

/-- A platform can be called where the settings name no other address. -/
theorem isSome_request?_of_public {p : Platform} {s : PlatformSettings} {c : LoginCode}
    (hpublic : s.endpoint = none) : (p.request? s c).isSome = true := by
  have hendpoint : (Address.parse? p.publicEndpoint).isSome = true := by
    cases p with
    | wechat => decide +kernel
    | tiktok => decide +kernel
  rwa [request?, hpublic, Option.isSome_map]

/-- Every platform can give every id but the empty one. -/
theorem exchange_giving {p : Platform} {s : PlatformSettings} {c : LoginCode} {openid : String}
    (hpublic : s.endpoint = none) (hopenid : openid ≠ "") :
    p.exchange s (.answering (p.giving openid)) c = .ok ⟨openid⟩ := by
  rw [exchange_answering (isSome_request?_of_public hpublic) (p.verdict?_giving openid), judge,
    if_neg (not_not_intro rfl), if_neg hopenid]

end Platform

end PlayerHub
