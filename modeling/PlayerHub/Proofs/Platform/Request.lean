import PlayerHub.Platform.Basic
import PlayerHub.Proofs.Json.RoundTrip
import PlayerHub.Proofs.Platform.Address

namespace PlayerHub

open Json (Value)

namespace Platform

/-- Whether a request goes to an address and says there what an exchange is about. WeChat reads from
what is sent the pairs that the endpoint itself has and then those of the exchange, TikTok an object
with just the members of the exchange. -/
def Carries (s : PlatformSettings) (c : LoginCode) (a : Address) : Platform → Request → Prop
  | .wechat, .get sent =>
    { sent with query := a.query } = a ∧
      Form.decode (Address.queryIn sent.target) =
        Form.decode (Address.queryIn (s.endpoint.getD wechat.publicEndpoint)) ++
          [("appid", s.appId), ("secret", s.appSecret), ("js_code", c.code),
            ("grant_type", "authorization_code")]
  | .tiktok, .post sent body =>
    sent = a ∧
      Value.parse? body = some (.ofMembers
        [("appid", .str s.appId), ("secret", .str s.appSecret), ("code", .str c.code),
          ("anonymous_code", .str (c.anonymous.getD ""))])
  | _, _ => False

variable {p : Platform} {s : PlatformSettings} {c : LoginCode} {a : Address}

theorem request?_of_parse? (h : Address.parse? (s.endpoint.getD p.publicEndpoint) = some a) :
    p.request? s c = some (p.requestTo s c a) := by
  rw [request?, h, Option.map_some]

theorem request?_of_parse?_none (h : Address.parse? (s.endpoint.getD p.publicEndpoint) = none) :
    p.request? s c = none := by
  rw [request?, h, Option.map_none]

theorem carries_requestTo (h : Address.parse? (s.endpoint.getD p.publicEndpoint) = some a) :
    p.Carries s c a (p.requestTo s c a) := by
  cases p with
  | wechat => exact ⟨rfl, Address.decode_queryIn_target_addPairs h (queryPairs s c)⟩
  | tiktok => exact ⟨rfl, Value.parse?_print (requestJson s c)⟩

/-- Whatever the texts are, a platform whose endpoint can be called is sent just these. -/
theorem values_are_sent_as_they_are (p : Platform) (s : PlatformSettings) (c : LoginCode)
    {a : Address} (h : Address.parse? (s.endpoint.getD p.publicEndpoint) = some a) :
    ∃ request, p.request? s c = some request ∧ p.Carries s c a request :=
  ⟨p.requestTo s c a, request?_of_parse? h, carries_requestTo h⟩

/-- A code that would end its pair and begin another, or end its text and begin another member. -/
theorem code_with_separators_is_sent_as_it_is :
    let s : PlatformSettings :=
      { appId := "wx&secret=", endpoint := some "http://user:p w@[::1]:8080/../sns?v=%26&&a b#top" }
    let code := "\"&grant_type=none,\"code\":\"+%00#\n码"
    (Address.parse? (s.endpoint.getD wechat.publicEndpoint)).isSome = true ∧
      (∃ sent, wechat.request? s ⟨code, none⟩ = some (.get sent) ∧
        Form.decode (Address.queryIn sent.target) =
          [("v", "&"), ("a b", ""), ("appid", "wx&secret="), ("secret", ""), ("js_code", code),
            ("grant_type", "authorization_code")]) ∧
      ∃ sent body, tiktok.request? s ⟨code, some "\\"⟩ = some (.post sent body) ∧
        Value.parse? body = some (.ofMembers
          [("appid", .str "wx&secret="), ("secret", .str ""), ("code", .str code),
            ("anonymous_code", .str "\\")]) := by
  intro s code
  have hendpoint : (Address.parse? (s.endpoint.getD wechat.publicEndpoint)).isSome = true := by
    decide +kernel
  obtain ⟨a, ha⟩ := Option.isSome_iff_exists.1 hendpoint
  have hown : Form.decode (Address.queryIn "http://user:p w@[::1]:8080/../sns?v=%26&&a b#top") =
      [("v", "&"), ("a b", "")] := by decide +kernel
  refine ⟨hendpoint, ?_, ?_⟩
  · obtain ⟨request, hrequest, hcarried⟩ := values_are_sent_as_they_are .wechat s ⟨code, none⟩ ha
    cases request with
    | get sent =>
      refine ⟨sent, hrequest, hcarried.2.trans ?_⟩
      change Form.decode (Address.queryIn "http://user:p w@[::1]:8080/../sns?v=%26&&a b#top") ++ _ = _
      rw [hown]
      rfl
    | post _ _ => exact hcarried.elim
  · obtain ⟨request, hrequest, hcarried⟩ :=
      values_are_sent_as_they_are .tiktok s ⟨code, some "\\"⟩ ha
    cases request with
    | get _ => exact hcarried.elim
    | post sent body => exact ⟨sent, body, hrequest, hcarried.2⟩

end Platform

end PlayerHub
