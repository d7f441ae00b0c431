import PlayerHub.Proofs.Json.Members
import PlayerHub.Proofs.Platform.Answer
import PlayerHub.Proofs.Platform.Request

namespace PlayerHub

open Json (Tells Value)

variable {p : Platform} {s : PlatformSettings} {network : Network} {c : LoginCode}
  {v : Value} {verdict : Verdict}

namespace Platform

/-- What the data in an answer of TikTok give as the id. Without data there is no id. -/
inductive DataTells : Option Value → String → Prop where
  | absent : DataTells none ""
  | null : DataTells (some .null) ""
  | given {v : Value} {m : Option Value} {openid : String} (hmembers : v.Gives ["openid"] [m])
      (hopenid : Tells "" .str m openid) : DataTells (some v) openid

/-- What an answer says, member by member. -/
inductive Says : Platform → Value → Verdict → Prop where
  | wechat {v : Value} {openid number message : Option Value} {verdict : Verdict}
      (hmembers : v.Gives ["openid", "errcode", "errmsg"] [openid, number, message])
      (hnumber : Tells 0 (fun n : Int64 => .int n.toInt) number verdict.number)
      (hmessage : Tells "" .str message verdict.message)
      (hopenid : Tells "" .str openid verdict.openid) : Says .wechat v verdict
  | tiktok {v : Value} {number message data : Option Value} {verdict : Verdict}
      (hmembers : v.Gives ["err_no", "err_tips", "data"] [number, message, data])
      (hnumber : Tells 0 (fun n : Int64 => .int n.toInt) number verdict.number)
      (hmessage : Tells "" .str message verdict.message)
      (hdata : DataTells data verdict.openid) : Says .tiktok v verdict

theorem orElse_str?_iff {m : Option Value} {text : String} :
    Json.orElse "" Value.str? m = some text ↔ Tells "" .str m text :=
  Json.orElse_eq_some_iff fun _ _ => Value.str?_eq_some_iff

theorem orElse_int64?_iff {m : Option Value} {n : Int64} :
    Json.orElse 0 Value.int64? m = some n ↔ Tells 0 (fun n : Int64 => .int n.toInt) m n :=
  Json.orElse_eq_some_iff fun _ _ => Value.int64?_eq_some_iff

theorem dataOpenid?_eq_some_iff {openid : String} :
    Verdict.dataOpenid? v = some openid ↔
      ∃ m, v.Gives ["openid"] [m] ∧ Tells "" .str m openid := by
  simp only [← Value.someFields?_eq_some_iff, ← orElse_str?_iff]
  unfold Verdict.dataOpenid?
  rw [Option.bind_eq_bind, Option.bind_eq_some_iff]
  constructor
  · rintro ⟨given, hgiven, h⟩
    split at h
    · exact ⟨_, hgiven, h⟩
    · cases h
  · rintro ⟨m, hgiven, h⟩
    exact ⟨_, hgiven, h⟩

/-- Data that is absent, `null` or without an id tells the empty id. -/
theorem dataTells_iff {m : Option Value} {openid : String} :
    DataTells m openid ↔
      ∃ given, Json.nullable Verdict.dataOpenid? m = some given ∧ given.getD "" = openid := by
  constructor
  · intro h
    cases h with
    | absent => exact ⟨none, rfl, rfl⟩
    | null => exact ⟨none, rfl, rfl⟩
    | @given v member openid hmembers hopenid =>
      have hread := dataOpenid?_eq_some_iff.2 ⟨member, hmembers, hopenid⟩
      cases v with
      | null => cases hmembers
      | _ => exact ⟨some openid, congrArg (Option.map some) hread, rfl⟩
  · rintro ⟨given, hread, rfl⟩
    unfold Json.nullable at hread
    split at hread
    · cases hread
      exact .absent
    · cases hread
      exact .null
    · obtain ⟨openid, hdata, rfl⟩ := Option.map_eq_some_iff.1 hread
      obtain ⟨m, hmembers, hopenid⟩ := dataOpenid?_eq_some_iff.1 hdata
      exact .given hmembers hopenid

/-- A value is read as a verdict exactly if it says so. -/
theorem verdict?_eq_some_iff : p.verdict? v = some verdict ↔ p.Says v verdict := by
  constructor
  · intro h
    cases p with
    | wechat =>
      simp only [verdict?, Verdict.ofWechat?, Option.bind_eq_bind, Option.bind_eq_some_iff] at h
      obtain ⟨given, hgiven, h⟩ := h
      split at h
      · simp only [Option.bind_eq_some_iff, Option.pure_def, Option.some.injEq] at h
        obtain ⟨number, hnumber, message, hmessage, openid, hopenid, rfl⟩ := h
        exact .wechat (Value.someFields?_eq_some_iff.1 hgiven) (orElse_int64?_iff.1 hnumber)
          (orElse_str?_iff.1 hmessage) (orElse_str?_iff.1 hopenid)
      · cases h
    | tiktok =>
      simp only [verdict?, Verdict.ofTiktok?, Option.bind_eq_bind, Option.bind_eq_some_iff] at h
      obtain ⟨given, hgiven, h⟩ := h
      split at h
      · simp only [Option.bind_eq_some_iff, Option.pure_def, Option.some.injEq] at h
        obtain ⟨number, hnumber, message, hmessage, data, hdata, rfl⟩ := h
        exact .tiktok (Value.someFields?_eq_some_iff.1 hgiven) (orElse_int64?_iff.1 hnumber)
          (orElse_str?_iff.1 hmessage) (dataTells_iff.2 ⟨data, hdata, rfl⟩)
      · cases h
  · intro h
    cases h with
    | wechat hmembers hnumber hmessage hopenid =>
      rw [← orElse_int64?_iff] at hnumber
      rw [← orElse_str?_iff] at hmessage hopenid
      simp only [verdict?, Verdict.ofWechat?, Value.someFields?_eq_some_iff.2 hmembers, hnumber,
        hmessage, hopenid, Option.bind_eq_bind, Option.bind_some, Option.pure_def]
    | tiktok hmembers hnumber hmessage hdata =>
      obtain ⟨data, hdata, hopenid⟩ := dataTells_iff.1 hdata
      rw [← orElse_int64?_iff] at hnumber
      rw [← orElse_str?_iff] at hmessage
      simp only [verdict?, Verdict.ofTiktok?, Value.someFields?_eq_some_iff.2 hmembers, hnumber,
        hmessage, hdata, hopenid, Option.bind_eq_bind, Option.bind_some, Option.pure_def]

/-- Whether a platform answers an exchange with success and the text of a value. -/
def Answers (p : Platform) (s : PlatformSettings) (network : Network) (c : LoginCode) (v : Value) :
    Prop :=
  ∃ request status body, p.request? s c = some request ∧
    network request = .answer status (.ok body) ∧ (200 ≤ status ∧ status < 300) ∧
    Value.parse? (String.ofList (Utf8.decodeLossy body)) = some v

/-- Whether an exchange brings a verdict: the platform answers it with success and says just
that. -/
def Brings (p : Platform) (s : PlatformSettings) (network : Network) (c : LoginCode)
    (verdict : Verdict) : Prop :=
  ∃ v, p.Answers s network c v ∧ p.Says v verdict

theorem exchange_eq_judge (h : p.Brings s network c verdict) :
    p.exchange s network c = p.judge verdict := by
  obtain ⟨v, ⟨request, status, body, hrequest, hnetwork, hstatus, hbody⟩, hsaid⟩ := h
  have hread : p.readBody? body = some verdict := by
    rw [readBody?, hbody, Option.bind_some, verdict?_eq_some_iff.2 hsaid]
  simp only [exchange, hrequest, hnetwork, resolve, if_pos hstatus, hread]

/-- Without a verdict, whatever the reason, the network is blamed. -/
theorem exchange_of_not_brings (h : ∀ verdict, ¬ p.Brings s network c verdict) :
    ∃ reason, p.exchange s network c = .error (.network p.name reason) := by
  unfold exchange
  split
  · rename_i request hrequest
    unfold resolve
    split
    · exact ⟨_, rfl⟩
    rename_i status body hnetwork
    split
    · rename_i hstatus
      split
      · exact ⟨_, rfl⟩
      rename_i body
      cases hread : p.readBody? body with
      | none => exact ⟨_, rfl⟩
      | some verdict =>
        obtain ⟨v, hbody, hverdict⟩ := Option.bind_eq_some_iff.1 hread
        exact absurd ⟨v, ⟨request, status, body, hrequest, hnetwork, hstatus, hbody⟩,
          verdict?_eq_some_iff.1 hverdict⟩ (h verdict)
    · exact ⟨_, rfl⟩
  · exact ⟨_, rfl⟩

theorem judge_of_error (h : verdict.number ≠ 0) :
    p.judge verdict = .error (.provider p.name verdict.number.toInt verdict.message) :=
  if_pos h

theorem judge_of_no_id (hnumber : verdict.number = 0) (hopenid : verdict.openid = "") :
    p.judge verdict = .error (.provider p.name 0 "response carried no openid") := by
  rw [judge, if_neg (not_not_intro hnumber), if_pos hopenid]

theorem judge_of_id (hnumber : verdict.number = 0) (hopenid : verdict.openid ≠ "") :
    p.judge verdict = .ok ⟨verdict.openid⟩ := by
  rw [judge, if_neg (not_not_intro hnumber), if_neg hopenid]

theorem judge_ne_network {name reason : String} :
    p.judge verdict ≠ .error (.network name reason) := by
  by_cases hnumber : verdict.number = 0
  · by_cases hopenid : verdict.openid = ""
    · rw [judge_of_no_id hnumber hopenid]
      nofun
    · rw [judge_of_id hnumber hopenid]
      nofun
  · rw [judge_of_error hnumber]
    nofun

theorem judge_eq_ok_iff {id : ExternalId} : p.judge verdict = .ok id ↔
    verdict.number = 0 ∧ verdict.openid = id.value ∧ id.value ≠ "" := by
  constructor
  · intro h
    by_cases hnumber : verdict.number = 0
    · by_cases hopenid : verdict.openid = ""
      · rw [judge_of_no_id hnumber hopenid] at h
        cases h
      · rw [judge_of_id hnumber hopenid] at h
        cases h
        exact ⟨hnumber, rfl, hopenid⟩
    · rw [judge_of_error hnumber] at h
      cases h
  · rintro ⟨hnumber, hopenid, hne⟩
    rw [judge_of_id hnumber (hopenid ▸ hne), hopenid]

/-- An error counts even if there is an id beside it. -/
theorem judge_eq_provider_iff {name message : String} {code : Int} :
    p.judge verdict = .error (.provider name code message) ↔ name = p.name ∧
      (verdict.number ≠ 0 ∧ code = verdict.number.toInt ∧ message = verdict.message ∨
        verdict.number = 0 ∧ verdict.openid = "" ∧ code = 0 ∧
          message = "response carried no openid") := by
  constructor
  · intro h
    by_cases hnumber : verdict.number = 0
    · by_cases hopenid : verdict.openid = ""
      · rw [judge_of_no_id hnumber hopenid] at h
        cases h
        exact ⟨rfl, .inr ⟨hnumber, hopenid, rfl, rfl⟩⟩
      · rw [judge_of_id hnumber hopenid] at h
        cases h
    · rw [judge_of_error hnumber] at h
      cases h
      exact ⟨rfl, .inl ⟨hnumber, rfl, rfl⟩⟩
  · rintro ⟨rfl, ⟨hnumber, rfl, rfl⟩ | ⟨hnumber, hopenid, rfl, rfl⟩⟩
    · exact judge_of_error hnumber
    · exact judge_of_no_id hnumber hopenid

/-- What is no failure at the network is what the verdict comes to. -/
theorem exchange_eq_iff {answer : Except IdentityError ExternalId}
    (hanswer : ∀ reason, answer ≠ .error (.network p.name reason)) :
    p.exchange s network c = answer ↔
      ∃ verdict, p.Brings s network c verdict ∧ p.judge verdict = answer := by
  constructor
  · intro h
    by_contra hnone
    have hnot : ∀ verdict, ¬ p.Brings s network c verdict := fun verdict hbrings =>
      hnone ⟨verdict, hbrings, (exchange_eq_judge hbrings).symm.trans h⟩
    obtain ⟨reason, hreason⟩ := exchange_of_not_brings hnot
    exact hanswer reason (h.symm.trans hreason)
  · rintro ⟨verdict, hbrings, rfl⟩
    exact exchange_eq_judge hbrings

/-- An exchange sends its credentials and its code to the endpoint, if that can be called, and
whatever the network does and whatever the platform answers then, it comes to one of three things.
It gives the id of the verdict that it brings, if that has no error and an id. It is refused if the
verdict has an error, with the number and the message of that even if there is an id, or with the
number 0 if there is neither an error nor an id. It fails at the network in every other case, that
is without a verdict. -/
theorem exchange_by_verdict (p : Platform) (s : PlatformSettings) (network : Network)
    (c : LoginCode) :
    let address? := Address.parse? (s.endpoint.getD p.publicEndpoint)
    let answer := p.exchange s network c
    (∀ a, address? = some a → ∃ request, p.request? s c = some request ∧
      p.Carries s c a request) ∧
    (address? = none → p.request? s c = none) ∧
    (∀ id : ExternalId, answer = .ok id ↔ ∃ verdict, p.Brings s network c verdict ∧
      verdict.number = 0 ∧ verdict.openid = id.value ∧ id.value ≠ "") ∧
    (∀ name code message, answer = .error (.provider name code message) ↔ name = p.name ∧
      ∃ verdict, p.Brings s network c verdict ∧
        (verdict.number ≠ 0 ∧ code = verdict.number.toInt ∧ message = verdict.message ∨
          verdict.number = 0 ∧ verdict.openid = "" ∧ code = 0 ∧
            message = "response carried no openid")) ∧
    ((∃ reason, answer = .error (.network p.name reason)) ↔
      ∀ verdict, ¬ p.Brings s network c verdict) := by
  intro address? answer
  refine ⟨fun a ha => ⟨_, request?_of_parse? ha, carries_requestTo ha⟩, request?_of_parse?_none,
    fun id => ?_, fun name code message => ?_, ?_, exchange_of_not_brings⟩
  · rw [exchange_eq_iff (by simp)]
    simp only [judge_eq_ok_iff]
  · rw [exchange_eq_iff (by simp)]
    simp only [judge_eq_provider_iff]
    constructor
    · rintro ⟨verdict, hbrings, hname, h⟩
      exact ⟨hname, verdict, hbrings, h⟩
    · rintro ⟨hname, verdict, hbrings, h⟩
      exact ⟨verdict, hbrings, hname, h⟩
  · rintro ⟨reason, hreason⟩ verdict hbrings
    have hjudge : answer = p.judge verdict := exchange_eq_judge hbrings
    exact judge_ne_network (hjudge.symm.trans hreason)

/-- A code is exchanged at an endpoint with a user, a password and an IPv6 address, by a server that
answers one request only. -/
theorem code_is_exchanged_at_ipv6_endpoint :
    let s : PlatformSettings := { appId := "wx", endpoint := some "http://user:pw@[::1]:8080" }
    let sent : Request := .get
      { secure := false
        authority := "user:pw@[::1]:8080".toList
        path := ['/']
        query := some "appid=wx&secret=&js_code=a%26b&grant_type=authorization_code".toList }
    let network : Network := fun request =>
      if request = sent then .answer 204 (.ok (Utf8.encode (wechat.giving "o").printChars))
      else .nothing .timedOut
    wechat.exchange s network ⟨"a&b", none⟩ = .ok ⟨"o"⟩ := by
  intro s sent network
  have hrequest : wechat.request? s ⟨"a&b", none⟩ = some sent := by decide +kernel
  have hbody : Value.parse? (String.ofList (Utf8.decodeLossy
      (Utf8.encode (wechat.giving "o").printChars))) = some (wechat.giving "o") := by
    rw [Utf8.decodeLossy_encode]
    exact Value.parse?_print _
  have hanswers : wechat.Answers s network ⟨"a&b", none⟩ (wechat.giving "o") :=
    ⟨sent, 204, _, hrequest, if_pos rfl, by decide, hbody⟩
  have hsays : wechat.Says (wechat.giving "o") ⟨0, "", "o"⟩ :=
    verdict?_eq_some_iff.1 (wechat.verdict?_giving "o")
  obtain ⟨-, -, hok, -⟩ := exchange_by_verdict wechat s network ⟨"a&b", none⟩
  exact (hok ⟨"o"⟩).2 ⟨_, ⟨_, hanswers, hsays⟩, rfl, rfl, by decide⟩

end Platform

end PlayerHub
