import PlayerHub.Session.Registry
import PlayerHub.Session.Settings
import PlayerHub.Session.Token

namespace PlayerHub

/-- Which operations a registry refuses, with the reasons. -/
structure RegistryGate where
  add : Option String := none
  replace : Option String := none
  remove : Bool := false
deriving DecidableEq, Repr

/-- The sessions of the game. A session is opened for a user, lives as long as its access token is
verified, and is renewed with its refresh token, which ends it and opens another one. The clock and
the ids of new sessions come from outside. -/
structure Sessions where
  settings : SessionSettings := {}
  registry : Registry := {}
  gate : RegistryGate := {}
deriving DecidableEq, Repr

/-- A session that has been opened, with its tokens. -/
structure OpenedSession where
  user : UserId
  session : String
  issuedAt : Int64
  accessExpiry : Int64
  refreshExpiry : Int64
  token : String
  refreshToken : String
deriving DecidableEq, Repr

/-- An action on the sessions that may fail. What it has done before it fails stays done. -/
abbrev SessionM := ExceptT SessionError (StateM Sessions)

/-- The result of an action on the sessions, and the sessions after it. -/
def SessionM.perform {α : Type} (act : SessionM α) (s : Sessions) :
    Except SessionError α × Sessions := act s

namespace Sessions

/-- The claims of a token signed with a key, if it is good by itself at the time `now`. -/
def checkToken (key : String) (now : Int64) (token : String) : Except SessionError Claims :=
  match Token.check key now token with
  | .ok c => .ok c
  | .error .expired => .error .expired
  | .error fault => .error (.invalidToken fault.text)

/-- Registers a session, beside the others of its user or in place of them. -/
def register (single : Bool) (user : UserId) (e : SessionEntry) : SessionM Unit := fun s =>
  match if single then s.gate.replace else s.gate.add with
  | some reason => (.error (.registryUnavailable reason), s)
  | none =>
    match if single then s.registry.replace user e else s.registry.add user e with
    | .error err => (.error err, s)
    | .ok registry => (.ok (), { s with registry })

/-- Forgets the session with the given id, and says whether there was one. -/
def discard (user : UserId) (id : String) : SessionM Bool := fun s =>
  if s.gate.remove then (.ok false, s)
  else (.ok (s.registry.has user id id), { s with registry := s.registry.remove user id id })

/-- The session with the id `fresh` that is opened at the time `now`. -/
def make (settings : SessionSettings) (now : Int64) (fresh : String) (user : UserId)
    (username : String) : OpenedSession :=
  let accessExpiry := now + settings.accessSeconds
  let refreshExpiry := now + settings.refreshSeconds
  let claims := fun expiry => (⟨fresh, user, username, now, expiry⟩ : Claims)
  { user
    session := fresh
    issuedAt := now
    accessExpiry
    refreshExpiry
    token := Token.sign settings.accessKey (claims accessExpiry)
    refreshToken := Token.sign settings.refreshKey (claims refreshExpiry) }

/-- The entry of a session in the registry. -/
def entryOf (o : OpenedSession) : SessionEntry :=
  ⟨o.session, o.accessExpiry, o.session, o.refreshExpiry⟩

/-- Opens a session with the unused id `fresh`. If `single` is set it ends the others of the
user. -/
def issue (now : Int64) (fresh : String) (user : UserId) (username : String) (single : Bool) :
    SessionM OpenedSession := do
  let opened := make (← get).settings now fresh user username
  register single user (entryOf opened)
  return opened

/-- The claims of a token that is signed with a key and good by itself at the time `checked`, if the
session that it speaks of is found alive after that. -/
def accept (key : String) (isAlive : UserId → Int64 → String → Bool) (checked : Int64)
    (token : String) : Except SessionError Claims := do
  let c ← checkToken key checked token
  if isAlive c.user c.expiry c.session then return c
  else throw (.revoked c.user)

/-- The claims of an access token that is checked at the time `checked`, and whose session is looked
up at the time `now`. -/
def verifyAt (s : Sessions) (checked now : Int64) (token : String) : Except SessionError Claims :=
  accept s.settings.accessKey (s.registry.isValidAccess now) checked token

/-- The claims of an access token whose session is alive. -/
def verify (s : Sessions) (now : Int64) (token : String) : Except SessionError Claims :=
  s.verifyAt now now token

/-- The claims of a refresh token that is checked at the time `checked`, and whose session is looked
up at the time `now`. -/
def approve (s : Sessions) (checked now : Int64) (token : String) : Except SessionError Claims :=
  accept s.settings.refreshKey (s.registry.isValidRefresh now) checked token

/-- Ends the session that claims speak of, which has to be there. -/
def retire (c : Claims) : SessionM Unit := do
  if !(← discard c.user c.session) then throw (.revoked c.user)

/-- Opens the session with the unused id `fresh` that takes the place of the one that claims speak
of. -/
def renew (now : Int64) (fresh : String) (c : Claims) : SessionM OpenedSession := do
  issue now fresh c.user c.username (← get).settings.single

/-- Ends the session of a refresh token that is alive, and opens another with the unused id
`fresh`. -/
def refresh (now : Int64) (fresh : String) (token : String) : SessionM OpenedSession := do
  let c ← (← get).approve now now token
  retire c
  renew now fresh c

/-- Ends all sessions of a user. -/
def logout (s : Sessions) (user : UserId) : Sessions :=
  { s with registry := s.registry.removeAll user }

end Sessions

end PlayerHub
