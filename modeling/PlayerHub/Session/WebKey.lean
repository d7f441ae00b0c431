import PlayerHub.Session.Algorithm

namespace PlayerHub.WebKey

open Json (Value)

/-- A kind of key. -/
inductive Kind where
  | ellipticCurve
  | rsa
  | octets
  | octetPair
deriving DecidableEq, Repr

namespace Kind

/-- All kinds. -/
def all : List Kind := [.ellipticCurve, .rsa, .octets, .octetPair]

/-- The name of a kind. -/
def name : Kind → String
  | .ellipticCurve => "EC"
  | .rsa => "RSA"
  | .octets => "oct"
  | .octetPair => "OKP"

/-- The numbers that make up a key of a kind, which are given as strings. -/
def numbers : Kind → List String
  | .ellipticCurve => ["x", "y"]
  | .rsa => ["n", "e"]
  | .octets => ["k"]
  | .octetPair => ["x"]

/-- Whether a key of a kind is a point of a curve. -/
def hasCurve : Kind → Bool
  | .ellipticCurve => true
  | .rsa => false
  | .octets => false
  | .octetPair => true

end Kind

/-- The names of the curves. -/
def curves : List String := ["P-256", "P-384", "P-521", "Ed25519"]

/-- Whether the members that every key may have are what they should be. -/
def hasCommonMembers (members : List (Option String × Value)) : Bool :=
  Option.isSome do
    let [purpose, uses, algorithm, id, url, chain, print, print256] ← Value.select? members
      ["use", "key_ops", "alg", "kid", "x5u", "x5c", "x5t", "x5t#S256"] | none
    let _ ← [purpose, id, url, print, print256].mapM (Json.nullable Value.str?)
    let _ ← [uses, chain].mapM (Json.nullable (Value.listOf? Value.str?))
    Json.nullable Algorithm.ofKey? algorithm

/-- Reads a member that has to be there once. -/
def member? {α : Type} (members : List (Option String × Value)) (name : String)
    (read : Value → Option α) : Option α := do
  Json.required read (← Value.member? members name)

/-- Whether members are those of a key of the given kind. -/
def isOfKind (members : List (Option String × Value)) (kind : Kind) : Bool :=
  member? members "kty" Value.choice? == some kind.name &&
    (!kind.hasCurve || (member? members "crv" Value.choice?).any curves.contains) &&
    kind.numbers.all fun number => (member? members number Value.str?).isSome

/-- The kind of key that a value describes, if it is the description of a key without a flaw. -/
def kind? (depth : Nat) (v : Value) : Option Kind :=
  match v with
  | .record members =>
    if v.flaw? depth = none ∧ hasCommonMembers members then Kind.all.find? (isOfKind members)
    else none
  | _ => none

end PlayerHub.WebKey
