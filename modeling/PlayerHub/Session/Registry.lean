import PlayerHub.Data.KeyMap
import PlayerHub.Uuid

namespace PlayerHub

/-- Why a session could not be opened, or a token is not accepted. -/
inductive SessionError where
  | registryUnavailable (reason : String)
  | signing (reason : String)
  | invalidToken (reason : String)
  | expired
  | revoked (user : UserId)
deriving DecidableEq, Repr

/-- The text of an error. -/
def SessionError.message : SessionError → String
  | .registryUnavailable reason => "session cache unavailable: " ++ reason
  | .signing reason => "token signing failed: " ++ reason
  | .invalidToken reason => "invalid token: " ++ reason
  | .expired => "token expired"
  | .revoked user => "session revoked for user " ++ user.print

/-- The name of a kind of error. -/
def SessionError.kind : SessionError → String
  | .registryUnavailable _ => "CacheUnavailable"
  | .signing _ => "Token"
  | .invalidToken _ => "InvalidToken"
  | .expired => "Expired"
  | .revoked _ => "Revoked"

/-- The ids of the two tokens of a session, with their expiries. -/
structure SessionEntry where
  access : String
  accessExpiry : Int64
  refresh : String
  refreshExpiry : Int64
deriving DecidableEq, Repr

/-- The sessions of a user: the registered ids with their expiries. -/
structure UserSessions where
  access : KeyMap String Int64 := ∅
  refresh : KeyMap String Int64 := ∅
deriving DecidableEq, Repr

namespace UserSessions

/-- Whether no id is registered. -/
def isEmpty (u : UserSessions) : Bool := u.access.isEmpty && u.refresh.isEmpty

/-- Registers the ids of a session. An id that is registered already gets the new expiry. -/
def insert (u : UserSessions) (e : SessionEntry) : UserSessions where
  access := u.access.insert e.access e.accessExpiry
  refresh := u.refresh.insert e.refresh e.refreshExpiry

/-- Forgets an id of an access token and an id of a refresh token. -/
def erase (u : UserSessions) (access refresh : String) : UserSessions where
  access := u.access.erase access
  refresh := u.refresh.erase refresh

/-- Forgets the ids whose expiry has passed. -/
def sweep (u : UserSessions) (now : Int64) : UserSessions where
  access := u.access.filter fun _ expiry => now ≤ expiry
  refresh := u.refresh.filter fun _ expiry => now ≤ expiry

end UserSessions

/-- The sessions of all users. A token is alive as long as its id is registered with just its expiry
and that has not passed, so that a sweep forgets only what is dead already. -/
structure Registry where
  users : KeyMap UserId UserSessions := ∅
  closed : Bool := false
deriving DecidableEq, Repr

namespace Registry

/-- The sessions of a user. -/
def sessionsOf (r : Registry) (user : UserId) : UserSessions := (r.users.get? user).getD {}

/-- The number of users who have any session. -/
def userCount (r : Registry) : Nat := r.users.size

/-- The number of sessions of a user. -/
def sessionCount (r : Registry) (user : UserId) : Nat := (r.sessionsOf user).access.size

/-- The error of a registry that takes no more sessions. -/
def closedError : SessionError := .registryUnavailable "cache is closed"

/-- Registers a session beside the other sessions of the user. -/
def add (r : Registry) (user : UserId) (e : SessionEntry) : Except SessionError Registry :=
  if r.closed then .error closedError
  else .ok { r with users := r.users.insert user ((r.sessionsOf user).insert e) }

/-- Registers a session in place of all other sessions of the user. -/
def replace (r : Registry) (user : UserId) (e : SessionEntry) : Except SessionError Registry :=
  if r.closed then .error closedError
  else .ok { r with users := r.users.insert user (UserSessions.insert {} e) }

/-- Ends all sessions of a user. -/
def removeAll (r : Registry) (user : UserId) : Registry := { r with users := r.users.erase user }

/-- Ends all sessions of some users. -/
def ban (r : Registry) (users : List UserId) : Registry := users.foldl removeAll r

/-- Whether a user has the id of an access token or the id of a refresh token. -/
def has (r : Registry) (user : UserId) (access refresh : String) : Bool :=
  (r.sessionsOf user).access.contains access || (r.sessionsOf user).refresh.contains refresh

/-- Forgets an id of an access token and an id of a refresh token of a user. -/
def remove (r : Registry) (user : UserId) (access refresh : String) : Registry :=
  let left := (r.sessionsOf user).erase access refresh
  if left.isEmpty then r.removeAll user
  else { r with users := r.users.insert user left }

/-- Whether an id is registered with an expiry that has not passed. -/
def isAlive (ids : KeyMap String Int64) (id : String) (expiry now : Int64) : Bool :=
  ids.get? id = some expiry && now ≤ expiry

/-- Whether an access token is alive. -/
def isValidAccess (r : Registry) (now : Int64) (user : UserId) (expiry : Int64) (id : String) :
    Bool :=
  isAlive (r.sessionsOf user).access id expiry now

/-- Whether a refresh token is alive. -/
def isValidRefresh (r : Registry) (now : Int64) (user : UserId) (expiry : Int64) (id : String) :
    Bool :=
  isAlive (r.sessionsOf user).refresh id expiry now

/-- Forgets all ids whose expiry has passed, and the users who are left with none. -/
def sweep (r : Registry) (now : Int64) : Registry :=
  { r with users := (r.users.map fun _ u => u.sweep now).filter fun _ u => !u.isEmpty }

/-- The number of users whom a sweep forgets. -/
def sweptUsers (r : Registry) (now : Int64) : Nat := r.userCount - (r.sweep now).userCount

/-- Takes no more sessions. Tokens that are out stay as good as they are. -/
def close (r : Registry) : Registry := { r with closed := true }

end Registry

/-- A sweeper: sweeps a registry again and again until it finds it closed. -/
structure Sweeper where
  period : Nat
  elapsed : Nat := 0
  finished : Bool := false
deriving DecidableEq, Repr

/-- A new sweeper. One with no time between its rounds stops at once. -/
def Sweeper.ofPeriod (period : Nat) : Sweeper := { period, finished := period == 0 }

/-- The sweeper and its registry after one more second, at the end of which the time is `now`. -/
def Sweeper.second (s : Sweeper) (r : Registry) (now : Int64) : Sweeper × Registry :=
  if s.finished then (s, r)
  else if s.elapsed + 1 < s.period then ({ s with elapsed := s.elapsed + 1 }, r)
  else if r.closed then ({ s with finished := true }, r)
  else ({ s with elapsed := 0 }, r.sweep now)

end PlayerHub
