import PlayerHub.Json.Record

namespace PlayerHub

open Json (Value)

/-- The settings of sessions. Times are in seconds. If `single` is set, a new session ends the
earlier ones of its user; the zero of `sweepSeconds` stands for never sweeping. -/
structure SessionSettings where
  accessKey : String := "defaultencryptionkey"
  refreshKey : String := "defaultrefreshencryptionkey"
  accessSeconds : Int64 := 3600
  refreshSeconds : Int64 := 2592000
  single : Bool := true
  sweepSeconds : UInt64 := 60
deriving DecidableEq, Repr

/-- The JSON form of settings. -/
def SessionSettings.toJson (s : SessionSettings) : Value :=
  .ofMembers [("encryption_key", .str s.accessKey), ("refresh_encryption_key", .str s.refreshKey),
    ("token_expiry_sec", .int s.accessSeconds.toInt),
    ("refresh_token_expiry_sec", .int s.refreshSeconds.toInt), ("single_session", .bool s.single),
    ("prune_interval_sec", .int s.sweepSeconds.toNat)]

/-- Reads settings from their JSON form. Every member may be absent. -/
def SessionSettings.ofJson? (v : Value) : Option SessionSettings := do
  let [accessKey, refreshKey, accessSeconds, refreshSeconds, single, sweepSeconds] ←
    v.someFields? ["encryption_key", "refresh_encryption_key", "token_expiry_sec",
      "refresh_token_expiry_sec", "single_session", "prune_interval_sec"] | none
  let d : SessionSettings := {}
  return {
    accessKey := ← Json.orElse d.accessKey Value.str? accessKey
    refreshKey := ← Json.orElse d.refreshKey Value.str? refreshKey
    accessSeconds := ← Json.orElse d.accessSeconds Value.int64? accessSeconds
    refreshSeconds := ← Json.orElse d.refreshSeconds Value.int64? refreshSeconds
    single := ← Json.orElse d.single Value.bool? single
    sweepSeconds := ← Json.orElse d.sweepSeconds Value.uint64? sweepSeconds }

end PlayerHub
