import PlayerHub.Json.Scanner
import PlayerHub.Json.Value
import PlayerHub.Text.Utf8

namespace PlayerHub.Json

/-- The containers that are open around the place where the next value goes, innermost first.
What a container holds so far is listed last first. -/
inductive Context where
  | top
  | list (items : List Value) (outer : Context)
  | record (members : List (Option String × Value)) (name : Option String) (outer : Context)

/-- What a reader has read, and with it what it may read next. -/
inductive State where
  | value (place : Context)
  | itemOrEnd (outer : Context)
  | commaOrEndOfList (items : List Value) (outer : Context)
  | nameOrEnd (outer : Context)
  | name (members : List (Option String × Value)) (outer : Context)
  | colon (members : List (Option String × Value)) (name : Option String) (outer : Context)
  | commaOrEndOfRecord (members : List (Option String × Value)) (outer : Context)
  | done (v : Value)

/-- The state after a value has been put into its place. -/
def Context.fill : Context → Value → State
  | .top, v => .done v
  | .list items outer, v => .commaOrEndOfList (v :: items) outer
  | .record members name outer, v => .commaOrEndOfRecord ((name, v) :: members) outer

/-- The state after the first token of a value, or `none` if no value starts with the token. -/
def Context.start (place : Context) : Token → Option State
  | .null => some (place.fill .null)
  | .bool b => some (place.fill (.bool b))
  | .number n => some (place.fill (.number n))
  | .text s => some (place.fill (.text s))
  | .openList => some (.itemOrEnd place)
  | .openRecord => some (.nameOrEnd place)
  | _ => none

/-- The state after one more token, or `none` if the token may not stand there. -/
def State.next : State → Token → Option State
  | .value place, t => place.start t
  | .itemOrEnd outer, .closeList => some (outer.fill (.list []))
  | .itemOrEnd outer, t => (Context.list [] outer).start t
  | .commaOrEndOfList items outer, .comma => some (.value (.list items outer))
  | .commaOrEndOfList items outer, .closeList => some (outer.fill (.list items.reverse))
  | .nameOrEnd outer, .closeRecord => some (outer.fill (.record []))
  | .nameOrEnd outer, .text n => some (.colon [] n.text? outer)
  | .name members outer, .text n => some (.colon members n.text? outer)
  | .colon members n outer, .colon => some (.value (.record members n outer))
  | .commaOrEndOfRecord members outer, .comma => some (.name members outer)
  | .commaOrEndOfRecord members outer, .closeRecord =>
    some (outer.fill (.record members.reverse))
  | _, _ => none

/-- The value that has been read when nothing more is due. -/
def State.result? : State → Option Value
  | .done v => some v
  | _ => none

/-- The value that a sequence of tokens denotes. -/
def Value.ofTokens? (ts : List Token) : Option Value :=
  (ts.foldlM State.next (.value .top)).bind State.result?

/-- The value that a sequence of symbols denotes. -/
def Value.ofSymbols? (s : List Symbol) : Option Value :=
  (tokens? s).bind Value.ofTokens?

/-- The value that a text denotes. -/
def Value.parse? (s : String) : Option Value := Value.ofSymbols? (s.toList.map some)

/-- The value that a byte sequence denotes. Bytes that are not UTF-8 may stand in a string that no
reader asks for. -/
def Value.ofBytes? (s : List UInt8) : Option Value := Value.ofSymbols? (Utf8.scalars s)

end PlayerHub.Json
