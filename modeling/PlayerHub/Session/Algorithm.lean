import PlayerHub.Json.Record

namespace PlayerHub.Algorithm

open Json (Value)

/-- The ways of signing. -/
def signing : List String :=
  ["HS256", "HS384", "HS512", "ES256", "ES384", "RS256", "RS384", "RS512", "PS256", "PS384",
    "PS512", "EdDSA"]

/-- The ways of encrypting. -/
def encryption : List String := ["RSA1_5", "RSA-OAEP", "RSA-OAEP-256"]

/-- The name, if it is one of those given. -/
def among? (names : List String) (name : String) : Option String :=
  if names.contains name then some name else none

/-- The way of signing that a value names. -/
def signing? (v : Value) : Option String := v.choice?.bind (among? signing)

/-- The algorithm that a value names for a key. An object whose only member has the name may hold an
empty object in place of `null`. -/
def ofKey? (v : Value) : Option String :=
  let name :=
    match v with
    | .record [(name, .record [])] => name
    | v => v.choice?
  name.bind (among? (signing ++ encryption))

end PlayerHub.Algorithm
