import PlayerHub.Account.Basic
import PlayerHub.Json.Reader
import PlayerHub.Platform.Basic

namespace PlayerHub

open Json (Value)

/-- Why an answer, or the rest of it, did not come. -/
inductive Interruption where
  | timedOut
  | failed (reason : String)
deriving DecidableEq, Repr

/-- The text of an interruption. -/
def Interruption.reason : Interruption → String
  | .timedOut => "request timed out"
  | .failed reason => reason

/-- What comes back from an exchange: an answer with its status and its body, as far as that came,
or nothing. -/
inductive Delivery where
  | nothing (why : Interruption)
  | answer (status : Nat) (body : Except Interruption (List UInt8))

/-- What the body of an answer says. -/
structure Verdict where
  number : Int64
  message : String
  openid : String
deriving DecidableEq, Repr

namespace Verdict

/-- Reads what WeChat says. Every member may be absent. -/
def ofWechat? (v : Value) : Option Verdict := do
  let [openid, number, message] ← v.someFields? ["openid", "errcode", "errmsg"] | none
  return {
    number := ← Json.orElse 0 Value.int64? number
    message := ← Json.orElse "" Value.str? message
    openid := ← Json.orElse "" Value.str? openid }

/-- Reads the id from the data that TikTok gives. -/
def dataOpenid? (v : Value) : Option String := do
  let [openid] ← v.someFields? ["openid"] | none
  Json.orElse "" Value.str? openid

/-- Reads what TikTok says. Every member may be absent, and the data may be `null`. -/
def ofTiktok? (v : Value) : Option Verdict := do
  let [number, message, data] ← v.someFields? ["err_no", "err_tips", "data"] | none
  return {
    number := ← Json.orElse 0 Value.int64? number
    message := ← Json.orElse "" Value.str? message
    openid := (← Json.nullable dataOpenid? data).getD "" }

end Verdict

namespace Platform

/-- Reads what a platform says from its JSON form. -/
def verdict? : Platform → Value → Option Verdict
  | .wechat => Verdict.ofWechat?
  | .tiktok => Verdict.ofTiktok?

/-- What a body says. Parts of it that are not UTF-8 are read as U+FFFD. -/
def readBody? (p : Platform) (body : List UInt8) : Option Verdict :=
  (Value.parse? (String.ofList (Utf8.decodeLossy body))).bind p.verdict?

/-- The id of the player, if the verdict gives one. -/
def judge (p : Platform) (v : Verdict) : Except IdentityError ExternalId :=
  if v.number ≠ 0 then .error (.provider p.name v.number.toInt v.message)
  else if v.openid = "" then .error (.provider p.name 0 "response carried no openid")
  else .ok ⟨v.openid⟩

/-- What an exchange comes to. -/
def resolve (p : Platform) : Delivery → Except IdentityError ExternalId
  | .nothing why => .error (.network p.name why.reason)
  | .answer status body =>
    if 200 ≤ status ∧ status < 300 then
      match body with
      | .error why => .error (.network p.name why.reason)
      | .ok bytes =>
        match p.readBody? bytes with
        | some v => p.judge v
        | none => .error (.network p.name "malformed response: the body is no answer")
    else .error (.network p.name ("unexpected status code: " ++ toString status))

end Platform

end PlayerHub
