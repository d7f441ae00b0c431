import PlayerHub.Data.NameMap
import PlayerHub.Document.Store
import PlayerHub.Text.Blank
import PlayerHub.Text.Utf8

namespace PlayerHub

open Json (Value)

/-- What a gift code grants. -/
structure Gift where
  id : String := ""
  name : String := ""
  coin : Int32 := 0
  coupon : Int32 := 0
  gem : Int32 := 0
  items : String := ""
  expire : String := ""
deriving DecidableEq, Repr

namespace Gift

/-- The JSON form of a gift. -/
def toJson (g : Gift) : Value :=
  .ofMembers [("id", .str g.id), ("name", .str g.name), ("coin", .int g.coin.toInt),
    ("coupon", .int g.coupon.toInt), ("gem", .int g.gem.toInt), ("items", .str g.items),
    ("expire", .str g.expire)]

/-- Reads a gift from its JSON form. Every member may be absent. -/
def ofJson? (v : Value) : Option Gift := do
  let [id, name, coin, coupon, gem, items, expire] ←
    v.someFields? ["id", "name", "coin", "coupon", "gem", "items", "expire"] | none
  return {
    id := ← Json.orElse "" Value.str? id
    name := ← Json.orElse "" Value.str? name
    coin := ← Json.orElse 0 Value.int32? coin
    coupon := ← Json.orElse 0 Value.int32? coupon
    gem := ← Json.orElse 0 Value.int32? gem
    items := ← Json.orElse "" Value.str? items
    expire := ← Json.orElse "" Value.str? expire }

end Gift

/-- The gifts of the game, by the codes under which players redeem them. A catalog that cannot be
read has no gifts. -/
structure Catalog where
  gifts : NameMap Gift := ∅
deriving DecidableEq, Repr

namespace Catalog

/-- The collection of the catalog in the storage. -/
def collection : String := "Tpl"

/-- The key of the catalog in the storage, and the name of its file. -/
def key : String := "TplRedemption"

/-- The catalog of some gifts, each under its id. Of two gifts with one id the later one stays. -/
def ofList (gifts : List Gift) : Catalog := ⟨.ofList (gifts.map fun g => (g.id, g))⟩

/-- The catalog that a text writes: a JSON object with a member for each code. A text of nothing but
blanks is an empty catalog. -/
def parse? (text : String) : Option Catalog :=
  if text.toList.all Text.isBlank then some {}
  else do
    let v ← Value.parse? text
    let entries ← v.entries? Gift.ofJson?
    return ⟨.ofList entries⟩

/-- The catalog that a file writes, empty if there is no file or it writes none. -/
def ofFile (file : Option (List UInt8)) : Catalog :=
  ((file.bind Utf8.decode?).bind fun text => parse? (String.ofList text)).getD {}

/-- Loads the catalog from the storage or, if it holds none or does not answer, from a file. -/
def load (file : Option (List UInt8)) : StateM Store Catalog := fun s =>
  match (Store.readText collection key).perform s with
  | (.ok (some text), s) => ((parse? text).getD {}, s)
  | (_, s) => (ofFile file, s)

/-- The gift of a code. -/
def find? (c : Catalog) (code : String) : Option Gift := c.gifts.get? code

/-- All gifts. -/
def all (c : Catalog) : List Gift := c.gifts.values

/-- The gifts with a property. -/
def select (c : Catalog) (p : Gift → Bool) : List Gift := c.all.filter p

/-- The number of codes. -/
def size (c : Catalog) : Nat := c.gifts.size

/-- Whether there are no codes. -/
def isEmpty (c : Catalog) : Bool := c.size == 0

end Catalog

end PlayerHub
