import PlayerHub.Digest.Hmac
import PlayerHub.Session.Claims
import PlayerHub.Session.WebKey
import PlayerHub.Text.Base64Url
import PlayerHub.Text.Utf8

namespace PlayerHub.Token

open Json (Flaw Value)

/-- Why a text is not accepted as a token. -/
inductive Fault where
  | shape
  | encoding
  | json
  | algorithm
  | signature
  | noExpiry
  | expired
  | audience
deriving DecidableEq, Repr

/-- The text of a fault. -/
def Fault.text : Fault → String
  | .shape => "InvalidToken"
  | .encoding => "Base64 error: a part is not base64url text"
  | .json => "JSON error: a part is not the JSON text it should be"
  | .algorithm => "InvalidAlgorithm"
  | .signature => "InvalidSignature"
  | .noExpiry => "Missing required claim: exp"
  | .expired => "ExpiredSignature"
  | .audience => "InvalidAudience"

/-- The JSON text of the header of every token that is signed here. -/
def header : List Char := "\x7b\"typ\":\"JWT\",\"alg\":\"HS256\"\x7d".toList

/-- The base64url text of the UTF-8 form of a text. -/
def encodePart (s : List Char) : List Char := Base64Url.encode (Utf8.encode s)

/-- The signature of a message under a key. -/
def signature (key : String) (message : List Char) : List Char :=
  Base64Url.encode (Hmac.mac (Utf8.ofString key) (Utf8.encode message))

/-- What a token with the given claims signs. -/
def message (c : Claims) : List Char :=
  encodePart header ++ '.' :: encodePart c.toJson.printChars

/-- The token with the given claims: a header, the claims, and a signature of these two made with a
key, each as base64url text, with dots between them. -/
def sign (key : String) (c : Claims) : String :=
  String.ofList (message c ++ '.' :: signature key (message c))

/-- What stands before and after the last dot. -/
def splitLast : List Char → Option (List Char × List Char)
  | [] => none
  | c :: s =>
    match splitLast s with
    | some (before, after) => some (c :: before, after)
    | none => if c = '.' then some ([], s) else none

/-- The parts of a token: what the signature signs, that is the header and the payload, and the
signature. Everything before the last dot but one belongs to the header. -/
def parts? (s : List Char) : Option (List Char × List Char × List Char × List Char) := do
  let (message, signature) ← splitLast s
  let (header, payload) ← splitLast message
  return (message, header, payload, signature)

/-- The text in a part of a token. -/
def partText? (part : List Char) : Option (List Char) :=
  (Base64Url.decode? part).bind Utf8.decode?

/-- The text of the header of a token. -/
def header? (token : String) : Option String := do
  let (_, header, _, _) ← parts? token.toList
  return String.ofList (← partText? header)

/-- The text of the payload of a token. -/
def payload? (token : String) : Option String := do
  let (_, _, payload, _) ← parts? token.toList
  return String.ofList (← partText? payload)

/-- The token with the header of one token, the payload of another and the signature of a third. -/
def mix? (a b c : String) : Option String := do
  let (_, header, _, _) ← parts? a.toList
  let (_, _, payload, _) ← parts? b.toList
  let (_, _, _, signature) ← parts? c.toList
  return String.ofList (header ++ '.' :: (payload ++ '.' :: signature))

/-- How deep the containers of a member of a header or a payload may be nested if the member is
taken in whole. -/
def maxDepth : Nat := 126

/-- The way of signing that a header names. The other members that a header may have are read, so
that they have to be what they should be, and then ignored. -/
def headerAlgorithm? (v : Value) : Option String := do
  let [typ, alg, cty, jku, jwk, kid, x5u, x5c, x5t, x5t256] ← v.fields?
    ["typ", "alg", "cty", "jku", "jwk", "kid", "x5u", "x5c", "x5t", "x5t#S256"] | none
  let _ ← Json.nullable (WebKey.kind? maxDepth) jwk
  let _ ← [typ, cty, jku, kid, x5u, x5t, x5t256].mapM (Json.nullable Value.str?)
  let _ ← Json.nullable (Value.listOf? Value.str?) x5c
  Json.required Algorithm.signing? alg

/-- Whether a value can name those for whom a token is meant. -/
def isAudience (v : Value) : Bool := v.str?.isSome || (v.listOf? Value.str?).isSome

/-- The flaw of a value where a time is due. A container is entered before it is refused, which
comes to its end only if it is empty. -/
def timeFlaw? : Value → Option Flaw
  | .list [] => some .atEnd
  | .record [] => some .atEnd
  | v => v.flaw? 0

/-- The flaw of a value where the name of the subject is due. A container is refused at its start,
which is no better than inside it. -/
def subjectFlaw? (v : Value) : Option Flaw := v.flaw? 0

/-- The flaw of a value where names of parties are due. It is taken in whole before it is looked
at. -/
def partiesFlaw? (v : Value) : Option Flaw := v.flaw? maxDepth

/-- What the registered members of a payload say: whether there is an expiry that is a time, and
whether the token is meant for somebody in particular. A member that is not what it should be counts
as absent, but it is none if a member leaves its reader inside or is repeated. The expiry leaves no
reader inside, since the claims have it as an integer. -/
def registered? : Value → Option (Bool × Bool)
  | .record members => do
    let [expiry, start, subject, issuer, audience] ←
      Value.select? members ["exp", "nbf", "sub", "iss", "aud"] | none
    let flaws := [start.bind timeFlaw?, subject.bind subjectFlaw?, issuer.bind partiesFlaw?,
      audience.bind partiesFlaw?]
    if some .inside ∈ flaws then none
    else return ((expiry.bind Value.uint64?).isSome, audience.any isAudience)
  | _ => some (false, false)

/-- The claims of a token whose signature is right, if it is still good at the time `now`. -/
def checkPayload (now : Int64) (payload : List Char) : Except Fault Claims :=
  match Base64Url.decode? payload with
  | none => .error .encoding
  | some bytes =>
    match (Value.ofBytes? bytes).bind fun v => do return (← Claims.ofJson? v, ← registered? v) with
    | none => .error .json
    | some (c, hasExpiry, hasAudience) =>
      if !hasExpiry then .error .noExpiry
      else if c.expiry < now then .error .expired
      else if hasAudience then .error .audience
      else .ok c

/-- The claims of a text that is a token signed with the key and is still good at the time `now`. -/
def check (key : String) (now : Int64) (token : String) : Except Fault Claims :=
  match parts? token.toList with
  | none => .error .shape
  | some (message, header, payload, given) =>
    match Base64Url.decode? header with
    | none => .error .encoding
    | some bytes =>
      match (Value.ofBytes? bytes).bind headerAlgorithm? with
      | none => .error .json
      | some algorithm =>
        if algorithm ≠ "HS256" then .error .algorithm
        else if given ≠ signature key message then .error .signature
        else checkPayload now payload

end PlayerHub.Token
