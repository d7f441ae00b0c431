import PlayerHub.Duration
import PlayerHub.Json.Record

namespace PlayerHub

open Json (Value)

/-- The settings for one platform. Codes are exchanged at its public address where `endpoint` names
no other one, and the zero of `limitMs` stands for ten seconds. -/
structure PlatformSettings where
  appId : String := ""
  appSecret : String := ""
  endpoint : Option String := none
  limitMs : UInt64 := 0
deriving DecidableEq, Repr

namespace PlatformSettings

/-- The time an exchange may take where the settings name none, in seconds. -/
def defaultLimitSeconds : Nat := 10

/-- Sets the longest time of an exchange. A time below a millisecond counts as one millisecond, and
a time beyond what a word of milliseconds holds as the longest that it holds. -/
def withLimit (s : PlatformSettings) (d : Duration) : PlatformSettings :=
  { s with
    limitMs :=
      if d.wholeMillis = 0 then (if d.isZero then 0 else 1)
      else if d.wholeMillis < UInt64.size then UInt64.ofNat d.wholeMillis
      else UInt64.ofNat (UInt64.size - 1) }

/-- The longest time of an exchange in milliseconds. -/
def limit (s : PlatformSettings) : Nat :=
  if s.limitMs = 0 then defaultLimitSeconds * 1000 else s.limitMs.toNat

/-- The JSON form of settings. -/
def toJson (s : PlatformSettings) : Value :=
  .ofMembers [("app_id", .str s.appId), ("app_secret", .str s.appSecret),
    ("endpoint", s.endpoint.elim .null .str), ("timeout_ms", .int s.limitMs.toNat)]

/-- Reads settings from their JSON form. Every member may be absent. -/
def ofJson? (v : Value) : Option PlatformSettings := do
  let [appId, appSecret, endpoint, limitMs] ←
    v.someFields? ["app_id", "app_secret", "endpoint", "timeout_ms"] | none
  return {
    appId := ← Json.orElse "" Value.str? appId
    appSecret := ← Json.orElse "" Value.str? appSecret
    endpoint := ← Json.nullable Value.str? endpoint
    limitMs := ← Json.orElse 0 Value.uint64? limitMs }

end PlatformSettings

end PlayerHub
