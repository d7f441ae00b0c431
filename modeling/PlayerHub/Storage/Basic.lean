import PlayerHub.Data.KeyMap
import PlayerHub.Storage.Object

namespace PlayerHub

/-- Why the storage did not do what it was asked for, or why a document could not be written or
read. -/
inductive StoreError where
  | unavailable (reason : String)
  | permissionDenied (collection key : String)
  | encode (collection key cause : String)
  | corrupt (collection key cause : String)
deriving DecidableEq, Repr

/-- The text of an error. -/
def StoreError.message : StoreError → String
  | .unavailable reason => "storage unavailable: " ++ reason
  | .permissionDenied collection key => "permission denied on " ++ collection ++ "/" ++ key
  | .encode collection key cause => "encode failed for " ++ collection ++ "/" ++ key ++ ": " ++ cause
  | .corrupt collection key cause =>
    "corrupt document " ++ collection ++ "/" ++ key ++ ": " ++ cause

/-- The name of a kind of error. -/
def StoreError.kind : StoreError → String
  | .unavailable _ => "Unavailable"
  | .permissionDenied .. => "PermissionDenied"
  | .encode .. => "Encode"
  | .corrupt .. => "Corrupt"

/-- On whose behalf the storage is called. -/
inductive Caller where
  | server
  | client (user : UserId)
deriving DecidableEq, Repr

/-- The user on whose behalf the storage is called, if it is one. -/
def Caller.user? : Caller → Option UserId
  | .server => none
  | .client user => some user

/-- The JSON form of a caller: the user, or `null` for the server. -/
def Caller.toJson (c : Caller) : Json.Value := c.user?.elim .null Uuid.toJson

/-- The object storage. -/
structure Storage where
  objects : KeyMap ObjectId Content := ∅
  online : Bool := true
deriving Repr

namespace Storage

/-- The error of a storage that does not answer. -/
def offlineError : StoreError := .unavailable "memory storage is offline"

/-- Whether a caller may read what is stored at a place. -/
def mayRead (caller : Caller) (id : ObjectId) (content : Content) : Bool :=
  match caller with
  | .server => true
  | .client user =>
    match content.read with
    | .publicRead => true
    | .ownerRead => id.owner = .user user
    | .noRead => false

/-- The object at a place, as far as the caller may read it. -/
def find? (s : Storage) (caller : Caller) (id : ObjectId) : Option Object := do
  let content ← s.objects.get? id
  if mayRead caller id content then some ⟨id, content⟩ else none

/-- The objects at the given places that are there and that the caller may read, in the order of
the places. -/
def read (s : Storage) (caller : Caller) (ids : List ObjectId) :
    Except StoreError (List Object) :=
  if s.online then .ok (ids.filterMap (s.find? caller)) else .error offlineError

/-- Whether a caller may write an object over what is stored. -/
def mayWrite (s : Storage) (caller : Caller) (id : ObjectId) : Bool :=
  match caller with
  | .server => true
  | .client user =>
    id.owner = .user user && (s.objects.get? id).all fun content => content.write ≠ .noWrite

/-- The storage with an object in its place. -/
def put (s : Storage) (o : Object) : Storage := { s with objects := s.objects.insert o.id o.content }

/-- The storage after a batch of writes. If the caller may not write one of the objects over what
was stored before the batch, nothing is written. -/
def write (s : Storage) (caller : Caller) (batch : List Object) : Except StoreError Storage :=
  if s.online then
    match batch.find? fun o => !s.mayWrite caller o.id with
    | some o => .error (.permissionDenied o.id.collection o.id.key)
    | none => .ok (batch.foldl put s)
  else .error offlineError

end Storage

end PlayerHub
