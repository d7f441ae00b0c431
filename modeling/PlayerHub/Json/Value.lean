import PlayerHub.Json.Number
import PlayerHub.Json.Quoted

namespace PlayerHub.Json

/-- The tree that a JSON text denotes. It keeps what later readers may ask for: the order of
members, repeated names, and `none` for a name that is no text. A literal that denotes nothing a
reader could use is still a value, so that texts may carry it where nobody looks. -/
inductive Value where
  | null
  | bool (b : Bool)
  | number (value : Number)
  | text (value : Quoted)
  | list (items : List Value)
  | record (members : List (Option String × Value))
deriving Repr, Inhabited

namespace Value

/-- The value of an integer. -/
def int (i : Int) : Value := .number (.int i)

/-- The value of a string. -/
def str (s : String) : Value := .text (.plain s)

/-- The value of a record with the given members. -/
def ofMembers (members : List (String × Value)) : Value :=
  .record (members.map fun m => (some m.1, m.2))

/-- The integer that a value is. -/
def int? : Value → Option Int
  | .number value => value.int?
  | _ => none

/-- The string that a value is. -/
def str? : Value → Option String
  | .text value => value.text?
  | _ => none

/-- The truth value that a value is. -/
def bool? : Value → Option Bool
  | .bool b => some b
  | _ => none

/-- The items that a value lists. -/
def items? : Value → Option (List Value)
  | .list items => some items
  | _ => none

/-- What keeps a reader from taking in a value whose containers may be nested to the given depth. A
name that is no text leaves it inside the object. -/
def flaw? : Nat → Value → Option Flaw
  | _, .null => none
  | _, .bool _ => none
  | _, .number value => value.flaw?
  | _, .text value => value.flaw?
  | 0, .list _ => some .inside
  | 0, .record _ => some .inside
  | depth + 1, .list items => Flaw.ofParts? (items.map (flaw? depth))
  | depth + 1, .record members =>
    Flaw.ofParts? (members.map fun m => if m.1.isSome then flaw? depth m.2 else some .inside)

@[simp] theorem int?_int (i : Int) : (int i).int? = some i := rfl

@[simp] theorem str?_str (s : String) : (str s).str? = some s := rfl

@[simp] theorem bool?_bool (b : Bool) : (bool b).bool? = some b := rfl

@[simp] theorem items?_list (l : List Value) : (list l).items? = some l := rfl

end Value

end PlayerHub.Json
