import PlayerHub.Json.Value

namespace PlayerHub.Json

namespace Value

/-- The member `name` of an object: absent, given once, or unreadable because it is repeated. -/
def member? (members : List (Option String × Value)) (name : String) : Option (Option Value) :=
  match members.filter (·.1 == some name) with
  | [] => some none
  | [m] => some (some m.2)
  | _ => none

/-- The members of an object by the given names, in the order of the names. -/
def select? (members : List (Option String × Value)) (names : List String) :
    Option (List (Option Value)) :=
  if members.all (·.1.isSome) then names.mapM (member? members) else none

/-- The members of a record that has all its members, in the order of the names. The value may be an
object, where members of other names are skipped, or an array that gives every one of them in
turn. -/
def fields? (names : List String) : Value → Option (List (Option Value))
  | .record members => select? members names
  | .list items => if items.length = names.length then some (items.map some) else none
  | _ => none

/-- The members of a record whose members may all be absent. An array may end early. -/
def someFields? (names : List String) : Value → Option (List (Option Value))
  | .record members => select? members names
  | .list items =>
    if items.length ≤ names.length then
      some (items.map some ++ List.replicate (names.length - items.length) none)
    else none
  | _ => none

/-- The entries of an object that maps names to values of one kind, in the order of the text. -/
def entries? {α : Type} (read : Value → Option α) : Value → Option (List (String × α))
  | .record members => members.mapM fun (n, v) => do
    let n ← n
    let a ← read v
    return (n, a)
  | _ => none

/-- The name of the choice that a value makes: the name itself, or an object whose only member has
the name and is `null`. -/
def choice? : Value → Option String
  | .text name => name.text?
  | .record [(name, .null)] => name
  | _ => none

/-- The integer that a value is, if it lies between the bounds. -/
def intBetween? (lo hi : Int) (v : Value) : Option Int := do
  let i ← v.int?
  if lo ≤ i ∧ i ≤ hi then some i else none

/-- The signed 32-bit integer that a value is. -/
def int32? (v : Value) : Option Int32 :=
  (v.intBetween? (-2147483648) 2147483647).map Int32.ofInt

/-- The signed 64-bit integer that a value is. -/
def int64? (v : Value) : Option Int64 :=
  (v.intBetween? (-9223372036854775808) 9223372036854775807).map Int64.ofInt

/-- The unsigned 64-bit integer that a value is. -/
def uint64? (v : Value) : Option UInt64 :=
  (v.intBetween? 0 18446744073709551615).map fun i => UInt64.ofNat i.toNat

/-- The value of a list that a value is. -/
def listOf? {α : Type} (read : Value → Option α) (v : Value) : Option (List α) := do
  (← v.items?).mapM read

end Value

/-- Reads a member that has to be there. -/
def required {α : Type} (read : Value → Option α) (v : Option Value) : Option α := v.bind read

/-- Reads a member that stands for `d` where it is absent. -/
def orElse {α : Type} (d : α) (read : Value → Option α) : Option Value → Option α
  | none => some d
  | some v => read v

/-- Reads a member that may be absent or `null`, which both mean nothing. -/
def nullable {α : Type} (read : Value → Option α) : Option Value → Option (Option α)
  | none => some none
  | some .null => some none
  | some v => (read v).map some

end PlayerHub.Json
