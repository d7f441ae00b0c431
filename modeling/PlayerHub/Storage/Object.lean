import PlayerHub.Uuid

namespace PlayerHub

/-- Whom an object belongs to. -/
inductive Owner where
  | shared
  | user (id : UserId)
deriving DecidableEq, Repr

namespace Owner

/-- The user that owns, if it is one. -/
def user? : Owner → Option UserId
  | .shared => none
  | .user id => some id

/-- The text of an owner. -/
def print : Owner → String
  | .shared => "global"
  | .user id => id.print

end Owner

/-- The place of an object. -/
structure ObjectId where
  collection : String
  key : String
  owner : Owner
deriving DecidableEq, Repr

/-- The text of a place: `collection/key@owner`. -/
def ObjectId.print (id : ObjectId) : String :=
  id.collection ++ "/" ++ id.key ++ "@" ++ id.owner.print

/-- Which clients may read an object. -/
inductive ReadPermission where
  | noRead
  | ownerRead
  | publicRead
deriving DecidableEq, Repr

/-- Whether a client that owns an object may overwrite it. -/
inductive WritePermission where
  | noWrite
  | ownerWrite
deriving DecidableEq, Repr

namespace ReadPermission

/-- The rank of a permission: the higher, the more clients may read. -/
def level : ReadPermission → Nat
  | .noRead => 0
  | .ownerRead => 1
  | .publicRead => 2

/-- The name of a permission. -/
def name : ReadPermission → String
  | .noRead => "NoRead"
  | .ownerRead => "OwnerRead"
  | .publicRead => "PublicRead"

/-- The permission of a name. -/
def ofName? (s : String) : Option ReadPermission :=
  [noRead, ownerRead, publicRead].find? (·.name == s)

/-- The JSON form of a permission. -/
def toJson (p : ReadPermission) : Json.Value := .str p.name

/-- Reads a permission from its JSON form. -/
def ofJson? (v : Json.Value) : Option ReadPermission := v.choice?.bind ofName?

end ReadPermission

namespace WritePermission

/-- The rank of a permission: the higher, the more clients may write. -/
def level : WritePermission → Nat
  | .noWrite => 0
  | .ownerWrite => 1

/-- The name of a permission. -/
def name : WritePermission → String
  | .noWrite => "NoWrite"
  | .ownerWrite => "OwnerWrite"

/-- The permission of a name. -/
def ofName? (s : String) : Option WritePermission :=
  [noWrite, ownerWrite].find? (·.name == s)

/-- The JSON form of a permission. -/
def toJson (p : WritePermission) : Json.Value := .str p.name

/-- Reads a permission from its JSON form. -/
def ofJson? (v : Json.Value) : Option WritePermission := v.choice?.bind ofName?

end WritePermission

/-- What is stored at a place: a text, who among the clients may read it, and whether its owner may
overwrite it. -/
structure Content where
  value : String
  read : ReadPermission
  write : WritePermission
deriving DecidableEq, Repr

/-- An object: a place and what is stored there. -/
structure Object where
  id : ObjectId
  content : Content
deriving DecidableEq, Repr

/-- The JSON form of an object. -/
def Object.toJson (o : Object) : Json.Value :=
  .ofMembers [("id", .str o.id.print), ("value", .str o.content.value),
    ("read", o.content.read.toJson), ("write", o.content.write.toJson)]

end PlayerHub
