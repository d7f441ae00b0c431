import PlayerHub.Proofs.Json.Members
import PlayerHub.Proofs.Json.RoundTrip
import PlayerHub.Service.Settings

namespace PlayerHub

open Json (Value)

theorem orElse_str?_iff_given {d : String} {m : Option Value} {s : String} :
    Json.orElse d Value.str? m = some s ↔
      ∃ given : Option String, m = given.map .str ∧ s = given.getD d :=
  (Json.orElse_eq_some_iff fun _ _ => Value.str?_eq_some_iff).trans Json.tells_iff

theorem orElse_uint64?_iff_given {d : UInt64} {m : Option Value} {n : UInt64} :
    Json.orElse d Value.uint64? m = some n ↔
      ∃ given : Option UInt64, m = given.map (fun n => .int n.toNat) ∧ n = given.getD d :=
  (Json.orElse_eq_some_iff fun _ _ => Value.uint64?_eq_some_iff).trans Json.tells_iff

namespace SessionSettings

/-- The values of the members that settings of sessions give. -/
structure Given where
  accessKey : Option String := none
  refreshKey : Option String := none
  accessSeconds : Option Int64 := none
  refreshSeconds : Option Int64 := none
  single : Option Bool := none
  sweepSeconds : Option UInt64 := none

namespace Given

/-- Whether a value gives these members, and no other known ones. -/
def IsIn (given : Given) (v : Value) : Prop :=
  v.Gives ["encryption_key", "refresh_encryption_key", "token_expiry_sec",
      "refresh_token_expiry_sec", "single_session", "prune_interval_sec"]
    [given.accessKey.map .str, given.refreshKey.map .str,
      given.accessSeconds.map fun n => .int n.toInt,
      given.refreshSeconds.map fun n => .int n.toInt, given.single.map .bool,
      given.sweepSeconds.map fun n => .int n.toNat]

/-- Settings with the given values in their places. -/
def applyTo (d : SessionSettings) (given : Given) : SessionSettings where
  accessKey := given.accessKey.getD d.accessKey
  refreshKey := given.refreshKey.getD d.refreshKey
  accessSeconds := given.accessSeconds.getD d.accessSeconds
  refreshSeconds := given.refreshSeconds.getD d.refreshSeconds
  single := given.single.getD d.single
  sweepSeconds := given.sweepSeconds.getD d.sweepSeconds

end Given

theorem ofJson?_eq_some_iff {v : Value} {s : SessionSettings} :
    ofJson? v = some s ↔ ∃ given : Given, given.IsIn v ∧ s = given.applyTo {} := by
  have hint {d n : Int64} {m : Option Value} : Json.orElse d Value.int64? m = some n ↔
      ∃ given : Option Int64, m = given.map (fun n => .int n.toInt) ∧ n = given.getD d :=
    (Json.orElse_eq_some_iff fun _ _ => Value.int64?_eq_some_iff).trans Json.tells_iff
  have hbool {d b : Bool} {m : Option Value} : Json.orElse d Value.bool? m = some b ↔
      ∃ given : Option Bool, m = given.map .bool ∧ b = given.getD d :=
    (Json.orElse_eq_some_iff fun _ _ => Value.bool?_eq_some_iff).trans Json.tells_iff
  unfold ofJson?
  simp only [Option.bind_eq_bind, Option.bind_eq_some_iff]
  constructor
  · rintro ⟨fields, hfields, h⟩
    split at h
    · simp only [Option.bind_eq_some_iff, Option.pure_def, Option.some.injEq,
        orElse_str?_iff_given, orElse_uint64?_iff_given, hint, hbool] at h
      obtain ⟨_, ⟨a, rfl, rfl⟩, _, ⟨b, rfl, rfl⟩, _, ⟨c, rfl, rfl⟩, _, ⟨e, rfl, rfl⟩, _,
        ⟨f, rfl, rfl⟩, _, ⟨g, rfl, rfl⟩, rfl⟩ := h
      exact ⟨⟨a, b, c, e, f, g⟩, Value.someFields?_eq_some_iff.1 hfields, rfl⟩
    · cases h
  · rintro ⟨given, hin, rfl⟩
    refine ⟨_, Value.someFields?_eq_some_iff.2 hin, ?_⟩
    simp only [Option.bind_eq_some_iff, Option.pure_def, Option.some.injEq,
      orElse_str?_iff_given, orElse_uint64?_iff_given, hint, hbool]
    exact ⟨_, ⟨_, rfl, rfl⟩, _, ⟨_, rfl, rfl⟩, _, ⟨_, rfl, rfl⟩, _, ⟨_, rfl, rfl⟩, _,
      ⟨_, rfl, rfl⟩, _, ⟨_, rfl, rfl⟩, rfl⟩

end SessionSettings

namespace PlatformSettings

/-- The values of the members that settings for a platform give. An endpoint may be given as the
public one. -/
structure Given where
  appId : Option String := none
  appSecret : Option String := none
  endpoint : Option (Option String) := none
  limitMs : Option UInt64 := none

namespace Given

/-- Whether a value gives these members, and no other known ones. -/
def IsIn (given : Given) (v : Value) : Prop :=
  v.Gives ["app_id", "app_secret", "endpoint", "timeout_ms"]
    [given.appId.map .str, given.appSecret.map .str, given.endpoint.map (·.elim .null .str),
      given.limitMs.map fun n => .int n.toNat]

/-- Settings with the given values in their places. -/
def applyTo (d : PlatformSettings) (given : Given) : PlatformSettings where
  appId := given.appId.getD d.appId
  appSecret := given.appSecret.getD d.appSecret
  endpoint := given.endpoint.getD d.endpoint
  limitMs := given.limitMs.getD d.limitMs

end Given

theorem ofJson?_eq_some_iff {v : Value} {s : PlatformSettings} :
    ofJson? v = some s ↔ ∃ given : Given, given.IsIn v ∧ s = given.applyTo {} := by
  have hendpoint {m : Option Value} {e : Option String} : Json.nullable Value.str? m = some e ↔
      ∃ given : Option (Option String), m = given.map (·.elim .null .str) ∧ e = given.getD none :=
    (Json.nullable_eq_some_iff (fun _ _ => Value.str?_eq_some_iff) nofun).trans Json.tells_iff
  unfold ofJson?
  simp only [Option.bind_eq_bind, Option.bind_eq_some_iff]
  constructor
  · rintro ⟨fields, hfields, h⟩
    split at h
    · simp only [Option.bind_eq_some_iff, Option.pure_def, Option.some.injEq,
        orElse_str?_iff_given, orElse_uint64?_iff_given, hendpoint] at h
      obtain ⟨_, ⟨appId, rfl, rfl⟩, _, ⟨appSecret, rfl, rfl⟩, _, ⟨endpoint, rfl, rfl⟩, _,
        ⟨limitMs, rfl, rfl⟩, rfl⟩ := h
      exact ⟨⟨appId, appSecret, endpoint, limitMs⟩, Value.someFields?_eq_some_iff.1 hfields, rfl⟩
    · cases h
  · rintro ⟨given, hin, rfl⟩
    refine ⟨_, Value.someFields?_eq_some_iff.2 hin, ?_⟩
    simp only [Option.bind_eq_some_iff, Option.pure_def, Option.some.injEq,
      orElse_str?_iff_given, orElse_uint64?_iff_given, hendpoint]
    exact ⟨_, ⟨_, rfl, rfl⟩, _, ⟨_, rfl, rfl⟩, _, ⟨_, rfl, rfl⟩, _, ⟨_, rfl, rfl⟩, rfl⟩

end PlatformSettings

namespace SocialSettings

/-- The sections that settings for the platforms give. -/
structure Given where
  wechat : Option PlatformSettings.Given := none
  tiktok : Option PlatformSettings.Given := none

namespace Given

/-- Whether a value gives these sections, and no other known ones. -/
def IsIn (given : Given) (v : Value) : Prop :=
  ∃ wechat tiktok, v.Gives ["wechat", "tiktok"] [wechat, tiktok] ∧
    Option.Rel PlatformSettings.Given.IsIn given.wechat wechat ∧
    Option.Rel PlatformSettings.Given.IsIn given.tiktok tiktok

/-- Settings with the given values in their places. -/
def applyTo (d : SocialSettings) (given : Given) : SocialSettings where
  wechat := given.wechat.elim d.wechat (·.applyTo d.wechat)
  tiktok := given.tiktok.elim d.tiktok (·.applyTo d.tiktok)

end Given

theorem ofJson?_eq_some_iff {v : Value} {s : SocialSettings} :
    ofJson? v = some s ↔ ∃ given : Given, given.IsIn v ∧ s = given.applyTo {} := by
  have hplatform {m : Option Value} {p : PlatformSettings} :
      Json.orElse {} PlatformSettings.ofJson? m = some p ↔
        ∃ given : Option PlatformSettings.Given,
          Option.Rel PlatformSettings.Given.IsIn given m ∧ p = given.elim {} (·.applyTo {}) :=
    Json.orElse_eq_some_iff_rel fun _ _ => PlatformSettings.ofJson?_eq_some_iff
  unfold ofJson?
  simp only [Option.bind_eq_bind, Option.bind_eq_some_iff]
  constructor
  · rintro ⟨fields, hfields, h⟩
    split at h
    · simp only [Option.bind_eq_some_iff, Option.pure_def, Option.some.injEq, hplatform] at h
      obtain ⟨_, ⟨wechat, hwechat, rfl⟩, _, ⟨tiktok, htiktok, rfl⟩, rfl⟩ := h
      exact ⟨⟨wechat, tiktok⟩,
        ⟨_, _, Value.someFields?_eq_some_iff.1 hfields, hwechat, htiktok⟩, rfl⟩
    · cases h
  · rintro ⟨given, ⟨wechat, tiktok, hgives, hwechat, htiktok⟩, rfl⟩
    refine ⟨_, Value.someFields?_eq_some_iff.2 hgives, ?_⟩
    simp only [Option.bind_eq_some_iff, Option.pure_def, Option.some.injEq, hplatform]
    exact ⟨_, ⟨_, hwechat, rfl⟩, _, ⟨_, htiktok, rfl⟩, rfl⟩

end SocialSettings

namespace ServerSettings

/-- The sections and the value that settings of the server give. -/
structure Given where
  session : Option SessionSettings.Given := none
  social : Option SocialSettings.Given := none
  dataDir : Option String := none

namespace Given

/-- Whether a value gives these members, and no other known ones. -/
def IsIn (given : Given) (v : Value) : Prop :=
  ∃ session social,
    v.Gives ["session", "social", "data_dir"] [session, social, given.dataDir.map .str] ∧
      Option.Rel SessionSettings.Given.IsIn given.session session ∧
      Option.Rel SocialSettings.Given.IsIn given.social social

/-- Settings with the given values in their places. -/
def applyTo (d : ServerSettings) (given : Given) : ServerSettings where
  session := given.session.elim d.session (·.applyTo d.session)
  social := given.social.elim d.social (·.applyTo d.social)
  dataDir := given.dataDir.getD d.dataDir

end Given

theorem ofJson?_eq_some_iff {v : Value} {s : ServerSettings} :
    ofJson? v = some s ↔ ∃ given : Given, given.IsIn v ∧ s = given.applyTo {} := by
  have hsession {m : Option Value} {a : SessionSettings} :
      Json.orElse {} SessionSettings.ofJson? m = some a ↔
        ∃ given : Option SessionSettings.Given,
          Option.Rel SessionSettings.Given.IsIn given m ∧ a = given.elim {} (·.applyTo {}) :=
    Json.orElse_eq_some_iff_rel fun _ _ => SessionSettings.ofJson?_eq_some_iff
  have hsocial {m : Option Value} {a : SocialSettings} :
      Json.orElse {} SocialSettings.ofJson? m = some a ↔
        ∃ given : Option SocialSettings.Given,
          Option.Rel SocialSettings.Given.IsIn given m ∧ a = given.elim {} (·.applyTo {}) :=
    Json.orElse_eq_some_iff_rel fun _ _ => SocialSettings.ofJson?_eq_some_iff
  unfold ofJson?
  simp only [Option.bind_eq_bind, Option.bind_eq_some_iff]
  constructor
  · rintro ⟨fields, hfields, h⟩
    split at h
    · simp only [Option.bind_eq_some_iff, Option.pure_def, Option.some.injEq,
        orElse_str?_iff_given, hsession, hsocial] at h
      obtain ⟨_, ⟨session, hsession, rfl⟩, _, ⟨social, hsocial, rfl⟩, _, ⟨dataDir, rfl, rfl⟩,
        rfl⟩ := h
      exact ⟨⟨session, social, dataDir⟩,
        ⟨_, _, Value.someFields?_eq_some_iff.1 hfields, hsession, hsocial⟩, rfl⟩
    · cases h
  · rintro ⟨given, ⟨session, social, hgives, hin, hin'⟩, rfl⟩
    refine ⟨_, Value.someFields?_eq_some_iff.2 hgives, ?_⟩
    simp only [Option.bind_eq_some_iff, Option.pure_def, Option.some.injEq,
      orElse_str?_iff_given, hsession, hsocial]
    exact ⟨_, ⟨_, hin, rfl⟩, _, ⟨_, hin', rfl⟩, _, ⟨_, rfl, rfl⟩, rfl⟩

theorem ofText_eq_ok_iff_ofJson? {text : String} {s : ServerSettings} :
    ofText text = .ok s ↔ ∃ v, Value.parse? text = some v ∧ ofJson? v = some s := by
  rw [ofText, ← Option.bind_eq_some_iff]
  cases (Value.parse? text).bind ofJson? <;> simp

/-- Whatever gives known members with values of their kinds is accepted when it is written, in
whatever order the members stand and whatever others stand between them. -/
theorem ofText_print {v : Value} {given : Given} (hin : given.IsIn v) :
    ofText v.print = .ok (given.applyTo {}) :=
  ofText_eq_ok_iff_ofJson?.2
    ⟨v, Value.parse?_print v, ofJson?_eq_some_iff.2 ⟨given, hin, rfl⟩⟩

/-- A text is accepted exactly if at each level it gives any of the known members, each at most once
and in any order, with values of their kinds; members of other names may hold anything, as long as
the names are texts. The settings are the defaults, with what is given in its places. -/
theorem ofText_eq_ok_iff {text : String} {s : ServerSettings} :
    ofText text = .ok s ↔
      ∃ v given, Value.parse? text = some v ∧ Given.IsIn given v ∧ s = given.applyTo {} := by
  simp only [ofText_eq_ok_iff_ofJson?, ofJson?_eq_some_iff]
  constructor
  · rintro ⟨v, hparse, given, hin, rfl⟩
    exact ⟨v, given, hparse, hin, rfl⟩
  · rintro ⟨v, given, hparse, hin, rfl⟩
    exact ⟨v, hparse, given, hin, rfl⟩

/-- Two of the three sections are given in part, with members between that nobody knows. -/
theorem settings_in_part_keep_defaults :
    let v := Value.ofMembers
      [("extra", .list [.null, .number (.other none)]),
        ("social", .ofMembers [("tiktok", .ofMembers [("app_id", .str "tt")]), ("x", .null)]),
        ("session", .ofMembers [("", .bool true), ("token_expiry_sec", .int 60)])]
    ofText v.print = .ok
      { session := { accessSeconds := 60 }, social := { tiktok := { appId := "tt" } } } := by
  intro v
  let given : Given :=
    { session := some { accessSeconds := some 60 }
      social := some { tiktok := some { appId := some "tt" } } }
  have hsession : SessionSettings.Given.IsIn { accessSeconds := some 60 }
      (.ofMembers [("", .bool true), ("token_expiry_sec", .int 60)]) :=
    Value.someFields?_eq_some_iff.1 rfl
  have htiktok : PlatformSettings.Given.IsIn { appId := some "tt" }
      (.ofMembers [("app_id", .str "tt")]) := Value.someFields?_eq_some_iff.1 rfl
  have hsocial : SocialSettings.Given.IsIn { tiktok := some { appId := some "tt" } }
      (.ofMembers [("tiktok", .ofMembers [("app_id", .str "tt")]), ("x", .null)]) :=
    ⟨none, _, Value.someFields?_eq_some_iff.1 rfl, .none, .some htiktok⟩
  have hin : given.IsIn v :=
    ⟨_, _, Value.someFields?_eq_some_iff.1 rfl, .some hsession, .some hsocial⟩
  exact ofText_eq_ok_iff.2 ⟨v, given, Value.parse?_print v, hin, rfl⟩

end ServerSettings

end PlayerHub
