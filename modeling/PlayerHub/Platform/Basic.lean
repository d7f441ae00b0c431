import PlayerHub.Json.Printer
import PlayerHub.Platform.Address
import PlayerHub.Platform.Settings

namespace PlayerHub

open Json (Value)

/-- A platform that players sign in with. -/
inductive Platform where
  | wechat
  | tiktok
deriving DecidableEq, Repr

/-- A login code that a player brings. -/
structure LoginCode where
  code : String
  anonymous : Option String := none
deriving DecidableEq, Repr

/-- A request to a platform. -/
inductive Request where
  | get (address : Address)
  | post (address : Address) (body : String)
deriving DecidableEq, Repr

namespace Platform

/-- The short name of a platform. -/
def name : Platform → String
  | .wechat => "wechat"
  | .tiktok => "tiktok"

/-- The public address at which a platform exchanges codes. -/
def publicEndpoint : Platform → String
  | .wechat => "https://api.weixin.qq.com/sns/jscode2session"
  | .tiktok => "https://developer.toutiao.com/api/apps/v2/jscode2session"

/-- The pairs that a request to WeChat adds to the query. -/
def queryPairs (s : PlatformSettings) (c : LoginCode) : List (String × String) :=
  [("appid", s.appId), ("secret", s.appSecret), ("js_code", c.code),
    ("grant_type", "authorization_code")]

/-- The JSON form of a request to TikTok. -/
def requestJson (s : PlatformSettings) (c : LoginCode) : Value :=
  .ofMembers [("appid", .str s.appId), ("secret", .str s.appSecret), ("code", .str c.code),
    ("anonymous_code", .str (c.anonymous.getD ""))]

/-- The request that exchanges a code at an address. -/
def requestTo (p : Platform) (s : PlatformSettings) (c : LoginCode) (a : Address) : Request :=
  match p with
  | .wechat => .get (a.addPairs (queryPairs s c))
  | .tiktok => .post a (requestJson s c).print

/-- The request that exchanges a code, if the settings name an address that can be called. -/
def request? (p : Platform) (s : PlatformSettings) (c : LoginCode) : Option Request :=
  (Address.parse? (s.endpoint.getD p.publicEndpoint)).map (p.requestTo s c)

end Platform

end PlayerHub
