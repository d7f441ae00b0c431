import PlayerHub.Uuid

namespace PlayerHub

/-- The id under which a platform knows a player. -/
structure ExternalId where
  value : String
deriving DecidableEq, Repr

/-- Why a player could not be told who they are. -/
inductive IdentityError where
  | provider (platform : String) (code : Int) (message : String)
  | network (platform reason : String)
  | accountNotFound (external : String)
  | usernameTaken (username : String)
  | unavailable (reason : String)
deriving DecidableEq, Repr

namespace IdentityError

/-- The text of an error. -/
def message : IdentityError → String
  | .provider platform code message =>
    platform ++ " rejected the code: " ++ message ++ " (code " ++ toString code ++ ")"
  | .network platform reason => platform ++ " unreachable: " ++ reason
  | .accountNotFound external => "no account bound to external id " ++ external
  | .usernameTaken username => "username " ++ username ++ " is already taken"
  | .unavailable reason => "account store unavailable: " ++ reason

/-- The name of a kind of error. -/
def kind : IdentityError → String
  | .provider .. => "Provider"
  | .network .. => "Network"
  | .accountNotFound _ => "AccountNotFound"
  | .usernameTaken _ => "UsernameTaken"
  | .unavailable _ => "Unavailable"

/-- Whether the same attempt may succeed later. -/
def isWorthRetrying : IdentityError → Bool
  | .network .. => true
  | .unavailable _ => true
  | _ => false

end IdentityError

/-- An account. -/
structure Account where
  user : UserId
  username : String
deriving DecidableEq, Repr

/-- The JSON form of an account. -/
def Account.toJson (a : Account) : Json.Value :=
  .ofMembers [("user", a.user.toJson), ("username", .str a.username)]

/-- An account and the external id that it is bound to. -/
structure Binding where
  external : ExternalId
  account : Account
deriving DecidableEq, Repr

/-- The accounts of the game, in the order in which they were made. An external id gets its account
at its first sign-in. If there is an outage, nothing is answered. -/
structure Directory where
  bindings : List Binding := []
  outage : Option String := none
deriving DecidableEq, Repr

/-- An account that a sign-in led to. -/
structure SignedIn where
  account : Account
  created : Bool
deriving DecidableEq, Repr

/-- The JSON form of a sign-in. -/
def SignedIn.toJson (s : SignedIn) : Json.Value :=
  .ofMembers [("account", s.account.toJson), ("created", .bool s.created)]

namespace Directory

/-- The number of accounts. -/
def size (d : Directory) : Nat := d.bindings.length

/-- An answer of the directory, unless it does not answer. -/
def answer {α : Type} (d : Directory) (a : α) : Except IdentityError α :=
  match d.outage with
  | some reason => .error (.unavailable reason)
  | none => .ok a

/-- The account that an external id is bound to. -/
def bound? (d : Directory) (external : ExternalId) : Option Account :=
  (d.bindings.find? fun b => b.external = external).map (·.account)

/-- The account of a username. -/
def named? (d : Directory) (username : String) : Option Account :=
  (d.bindings.find? fun b => b.account.username = username).map (·.account)

/-- The account of a user id. -/
def ofUser? (d : Directory) (user : UserId) : Option Account :=
  (d.bindings.find? fun b => b.account.user = user).map (·.account)

/-- Looks an account up by its username. -/
def lookUpName (d : Directory) (username : String) : Except IdentityError (Option Account) :=
  d.answer (d.named? username)

/-- Looks an account up by its user id. -/
def lookUpUser (d : Directory) (user : UserId) : Except IdentityError (Option Account) :=
  d.answer (d.ofUser? user)

/-- The account of an external id. If there is none and `create` allows it, an account is made with
the given username and the unused user id `fresh`. -/
def signIn (d : Directory) (external : ExternalId) (username : String) (create : Bool)
    (fresh : UserId) : Except IdentityError (SignedIn × Directory) := do
  match ← d.answer (d.bound? external) with
  | some account => return (⟨account, false⟩, d)
  | none =>
    if !create then throw (.accountNotFound external.value)
    else if (d.named? username).isSome then throw (.usernameTaken username)
    else
      let account : Account := ⟨fresh, username⟩
      return (⟨account, true⟩, { d with bindings := d.bindings ++ [⟨external, account⟩] })

end Directory

end PlayerHub
