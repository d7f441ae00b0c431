import PlayerHub.Json.Reader
import PlayerHub.Platform.Basic
import PlayerHub.Service.Failure
import PlayerHub.Session.Settings
import PlayerHub.Text.Utf8

namespace PlayerHub

open Json (Value)

/-- The settings for the platforms. -/
structure SocialSettings where
  wechat : PlatformSettings := {}
  tiktok : PlatformSettings := {}
deriving DecidableEq, Repr

namespace SocialSettings

/-- The settings for a platform. -/
def platform (s : SocialSettings) : Platform → PlatformSettings
  | .wechat => s.wechat
  | .tiktok => s.tiktok

/-- The settings with those for one platform replaced. -/
def withPlatform (s : SocialSettings) (p : Platform) (settings : PlatformSettings) :
    SocialSettings :=
  match p with
  | .wechat => { s with wechat := settings }
  | .tiktok => { s with tiktok := settings }

/-- Reads settings from their JSON form. -/
def ofJson? (v : Value) : Option SocialSettings := do
  let [wechat, tiktok] ← v.someFields? ["wechat", "tiktok"] | none
  return {
    wechat := ← Json.orElse {} PlatformSettings.ofJson? wechat
    tiktok := ← Json.orElse {} PlatformSettings.ofJson? tiktok }

end SocialSettings

/-- The settings of the server. -/
structure ServerSettings where
  session : SessionSettings := {}
  social : SocialSettings := {}
  dataDir : String := "./data"
deriving DecidableEq, Repr

namespace ServerSettings

/-- Reads settings from their JSON form. -/
def ofJson? (v : Value) : Option ServerSettings := do
  let [session, social, dataDir] ← v.someFields? ["session", "social", "data_dir"] | none
  let d : ServerSettings := {}
  return {
    session := ← Json.orElse d.session SessionSettings.ofJson? session
    social := ← Json.orElse d.social SocialSettings.ofJson? social
    dataDir := ← Json.orElse d.dataDir Value.str? dataDir }

/-- The settings that a text writes. -/
def ofText (text : String) : Except ServerError ServerSettings :=
  match (Value.parse? text).bind ofJson? with
  | some s => .ok s
  | none => .error (.settings "the text does not write any settings")

/-- The settings that a file writes. -/
def ofFile (file : Option (List UInt8)) : Except ServerError ServerSettings :=
  match file with
  | none => .error (.settings "there is no such file")
  | some bytes =>
    match Utf8.decode? bytes with
    | some text => ofText (String.ofList text)
    | none => .error (.settings "the file is not UTF-8")

/-- The settings with those for one platform replaced. -/
def withPlatform (s : ServerSettings) (p : Platform) (settings : PlatformSettings) :
    ServerSettings :=
  { s with social := s.social.withPlatform p settings }

end ServerSettings

end PlayerHub
