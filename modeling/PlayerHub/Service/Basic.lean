import PlayerHub.Gift.Redeem
import PlayerHub.Invite.Accept
import PlayerHub.Invite.Reward
import PlayerHub.Platform.Exchange
import PlayerHub.Player.Feedback
import PlayerHub.Service.Settings
import PlayerHub.Session.Basic

namespace PlayerHub

open Calendar (Instant)

/-- A player who is known by a token. -/
structure Player where
  user : UserId
  username : String
  session : String
  expiresAt : Int64
deriving DecidableEq, Repr

/-- The player of whom the claims of an access token tell. -/
def Player.ofClaims (c : Claims) : Player := ⟨c.user, c.username, c.session, c.expiry⟩

/-- The JSON form of a player. -/
def Player.toJson (p : Player) : Json.Value :=
  .ofMembers [("user", p.user.toJson), ("username", .str p.username),
    ("session_id", .str p.session), ("expires_at", .int p.expiresAt.toInt)]

/-- What a player gets who has signed in. -/
structure Welcome where
  token : String
  refreshToken : String
  created : Bool
deriving DecidableEq, Repr

/-- What a player gets when a session has been opened. -/
def Welcome.ofSession (o : OpenedSession) (created : Bool) : Welcome :=
  ⟨o.token, o.refreshToken, created⟩

/-- The server. -/
structure Server where
  settings : ServerSettings
  store : Store
  directory : Directory
  sessions : Sessions
  catalog : Catalog
  sweeper : Option Sweeper

/-- What a server needs that it would else make or load itself. -/
structure Supplies where
  registry : Registry := {}
  catalog : Option Catalog := none
  catalogFile : Option (List UInt8) := none

/-- Something that the server does for a player and that may fail. What it has done before it fails
stays done. -/
abbrev ServerM := ExceptT ServerError (StateM Server)

namespace ServerM

/-- What comes of something that the server does, and the server after it. -/
def perform {α : Type} (act : ServerM α) (s : Server) : Except ServerError α × Server := act s

/-- What is done to the sessions. -/
def ofSession {α : Type} (act : SessionM α) : ServerM α := fun s =>
  match act.perform s.sessions with
  | (.ok a, sessions) => (.ok a, { s with sessions })
  | (.error e, sessions) => (.error (.session e), { s with sessions })

/-- An action of a player. -/
def ofAction {α : Type} (act : ActionM α) : ServerM α := fun s =>
  match act.perform s.store with
  | (.ok a, store) => (.ok a, { s with store })
  | (.error e, store) => (.error (.action e), { s with store })

/-- What the platforms or the accounts answer. -/
def ofIdentity {α : Type} : Except IdentityError α → ServerM α
  | .ok a => pure a
  | .error e => throw (.identity e)

end ServerM

namespace Server

/-- The gifts of a server that starts, and the documents after they have been loaded. -/
def firstCatalog (supplies : Supplies) (store : Store) : Catalog × Store :=
  match supplies.catalog with
  | some catalog => (catalog, store)
  | none => Catalog.load supplies.catalogFile store

/-- The sweeper of a server that starts. -/
def firstSweeper (settings : SessionSettings) : Option Sweeper :=
  if settings.sweepSeconds = 0 then none else some (.ofPeriod settings.sweepSeconds.toNat)

/-- Starts a server over documents and accounts. -/
def start (settings : ServerSettings) (supplies : Supplies) (store : Store)
    (directory : Directory) : Server :=
  let (catalog, store) := firstCatalog supplies store
  { settings, store, directory, catalog
    sessions := { settings := settings.session, registry := supplies.registry }
    sweeper := firstSweeper settings.session }

/-- Whether expired sessions are being swept out. -/
def isSweeping (s : Server) : Bool := s.sweeper.any fun w => !w.finished

/-- The server with another session registry. -/
def withRegistry (s : Server) (registry : Registry) : Server :=
  { s with sessions := { s.sessions with registry } }

/-- Opens no more sessions. The tokens that are out stay as good as they are, and the sweeper stops
at its next round. -/
def shutdown (s : Server) : Server := s.withRegistry s.sessions.registry.close

/-- The server after one more second, at the end of which the time is `now`. -/
def second (s : Server) (now : Int64) : Server :=
  match s.sweeper with
  | none => s
  | some w =>
    let (w, registry) := w.second s.sessions.registry now
    { s.withRegistry registry with sweeper := some w }

/-- What a sign-in draws at random, in case it needs it. -/
structure Draws where
  user : UserId
  username : String
  session : String

/-- Finds or makes the account of an external id. -/
def accountOf (external : ExternalId) (draws : Draws) : ServerM SignedIn := do
  let s ← get
  let (signedIn, directory) ←
    ServerM.ofIdentity (s.directory.signIn external draws.username true draws.user)
  modify fun s => { s with directory }
  return signedIn

/-- Signs a player in with a login code: the code is exchanged, the account found or made, and a
session opened. -/
def signIn (p : Platform) (network : Network) (code : LoginCode) (draws : Draws) (now : Int64) :
    ServerM Welcome := do
  let settings := (← get).settings
  let external ← ServerM.ofIdentity (p.exchange (settings.social.platform p) network code)
  let ⟨account, created⟩ ← accountOf external draws
  let opened ← ServerM.ofSession
    (Sessions.issue now draws.session account.user account.username settings.session.single)
  return .ofSession opened created

/-- Renews the tokens of a player. The old ones are no longer good. -/
def refresh (fresh : String) (now : Int64) (token : String) : ServerM Welcome := do
  let opened ← ServerM.ofSession (Sessions.refresh now fresh token)
  return .ofSession opened false

/-- The player with an access token. -/
def verify (s : Server) (now : Int64) (token : String) : Except ServerError Player :=
  match s.sessions.verify now token with
  | .ok c => .ok (.ofClaims c)
  | .error e => .error (.session e)

/-- Ends all sessions of a player. -/
def logout (s : Server) (p : Player) : Server := { s with sessions := s.sessions.logout p.user }

/-- Puts a report of a player on record. -/
def submitFeedback (p : Player) (content : String) (issues : Int32) (now : Instant) :
    ServerM Unit :=
  ServerM.ofAction (Feedback.submit p.user content issues now)

/-- Redeems a gift code for a player. -/
def redeem (p : Player) (code : String) (now : Instant) : ServerM RedeemOutcome := do
  ServerM.ofAction ((← get).catalog.redeem p.user code now)

/-- Accepts an invite for a player. -/
def acceptInvite (p : Player) (share : String) : ServerM AcceptOutcome := do
  ServerM.ofAction (Invites.accept (← get).directory p.user p.username share)

/-- The names of a player's invitees whose reward is due. -/
def readyInvitees (p : Player) : ServerM (List String) := do
  ServerM.ofAction (Invites.ready (← get).directory p.user)

/-- Claims the rewards for some invitees of a player. -/
def claimRewards (p : Player) (names : List String) : ServerM ClaimOutcome :=
  ServerM.ofAction (Invites.claim p.user names)

/-- The document of a user. -/
def load (D : Type) [Document D] (user : UserId) : ServerM D := fun s =>
  match (Store.load D user).perform s.store with
  | (.ok d, store) => (.ok d, { s with store })
  | (.error e, store) => (.error (.store e), { s with store })

end Server

end PlayerHub
