import PlayerHub.Document.Basic
import PlayerHub.Storage.Basic

namespace PlayerHub

/-- A call to the storage. -/
inductive Call where
  | read (caller : Caller) (ids : List ObjectId)
  | write (caller : Caller) (batch : List Object)
deriving DecidableEq, Repr

/-- The owners of the objects that a call is about. -/
def Call.owners : Call → List Owner
  | .read _ ids => ids.map (·.owner)
  | .write _ batch => batch.map (·.id.owner)

/-- The JSON form of a call. -/
def Call.toJson : Call → Json.Value
  | .read caller ids =>
    .ofMembers [("read", .list (ids.map fun id => .str id.print)), ("caller", caller.toJson)]
  | .write caller batch =>
    .ofMembers [("write", .list (batch.map Object.toJson)), ("caller", caller.toJson)]

/-- Decides for each call, by its number since the store began, whether it is refused, and why. -/
abbrev Gate := Nat → Call → Option String

/-- Refuses the calls about objects of some owners: reads of those of `reads`, and writes of those
of `writes`. -/
def Gate.ofOwners (reads writes : List Owner) : Gate := fun _ c =>
  match c with
  | .read .. => if c.owners.any (reads.contains ·) then some "read rejected" else none
  | .write .. => if c.owners.any (writes.contains ·) then some "write rejected" else none

/-- The storage, with what stands between it and its users. The gate may refuse a call before it
gets there, and every call is put down in the journal, the latest one first. -/
structure Store where
  storage : Storage := {}
  codec : Codec := {}
  gate : Gate := fun _ _ => none
  journal : List Call := []

/-- An action on a store that may fail. What it has done before it fails stays done. -/
abbrev StoreM := ExceptT StoreError (StateM Store)

/-- The result of an action on a store, and the store after it. -/
def StoreM.perform {α : Type} (act : StoreM α) (s : Store) : Except StoreError α × Store := act s

namespace Store

/-- Makes a call: puts it down, asks the gate and passes it on. -/
def call {α : Type} (c : Call) (act : Storage → Except StoreError (α × Storage)) : StoreM α :=
  fun s =>
    let made := { s with journal := c :: s.journal }
    match s.gate s.journal.length c with
    | some reason => (.error (.unavailable reason), made)
    | none =>
      match act s.storage with
      | .error e => (.error e, made)
      | .ok (a, storage) => (.ok a, { made with storage })

/-- The objects at the given places that the caller may read. -/
def read (caller : Caller) (ids : List ObjectId) : StoreM (List Object) :=
  call (.read caller ids) fun s => (s.read caller ids).map (·, s)

/-- Writes a batch of objects. -/
def write (caller : Caller) (batch : List Object) : StoreM Unit :=
  call (.write caller batch) fun s => (s.write caller batch).map ((), ·)

variable (D : Type) [Document D]

/-- The place of an owner's document of the kind `D`. -/
def place (owner : Owner) : ObjectId := ⟨Document.collection D, Document.key D, owner⟩

/-- The document of an owner, as the caller sees it: empty if the caller sees none. -/
def fetch (caller : Caller) (owner : Owner) : StoreM D := do
  let found ← read caller [place D owner]
  match found.getLast? with
  | none => return Document.fresh
  | some o =>
    match (← get).codec.decode D o.content.value with
    | .ok d => return d
    | .error cause => throw (.corrupt (Document.collection D) (Document.key D) cause)

/-- The document of a user. -/
def load (user : UserId) : StoreM D := fetch D (.client user) (.user user)

/-- The document that belongs to nobody in particular. -/
def loadShared : StoreM D := fetch D .server .shared

variable {D}

/-- Brings a record up to the document of a user. A record that cannot be brought up to it stays as
it is, and the failure is told. -/
def bringUp (user : UserId) (record : D) : StateM Store (D × Option StoreError) := fun s =>
  match (load D user).perform s with
  | (.ok d, s) => ((d, none), s)
  | (.error e, s) => ((record, some e), s)

/-- Writes the document of an owner. -/
def store (owner : Owner) (d : D) : StoreM Unit := do
  match (← get).codec.encode d with
  | .error cause => throw (.encode (Document.collection D) (Document.key D) cause)
  | .ok value => write .server [⟨place D owner, ⟨value, .ownerRead, .noWrite⟩⟩]

/-- Writes the document of a user. -/
def save (user : UserId) (d : D) : StoreM Unit := store (.user user) d

/-- Writes the document that belongs to nobody in particular. -/
def saveShared (d : D) : StoreM Unit := store .shared d

/-- The text of an object that belongs to nobody in particular. -/
def readText (collection key : String) : StoreM (Option String) := do
  let found ← read .server [⟨collection, key, .shared⟩]
  return found.getLast?.map (·.content.value)

end Store

end PlayerHub
