import PlayerHub.Json.Token
import PlayerHub.Json.Value

namespace PlayerHub.Json.Value

mutual

/-- The tokens of a value. -/
def tokens : Value → List Token
  | .null => [.null]
  | .bool b => [.bool b]
  | .number n => [.number n]
  | .text s => [.text s]
  | .list items => .openList :: (itemTokens items ++ [.closeList])
  | .record members => .openRecord :: (memberTokens members ++ [.closeRecord])

/-- The tokens of the items of an array, with commas between them. -/
def itemTokens : List Value → List Token
  | [] => []
  | [v] => v.tokens
  | v :: w :: vs => v.tokens ++ .comma :: itemTokens (w :: vs)

/-- The tokens of the members of an object, with commas between them. -/
def memberTokens : List (Option String × Value) → List Token
  | [] => []
  | [(n, v)] => .text (.ofText n) :: .colon :: v.tokens
  | (n, v) :: m :: ms =>
    .text (.ofText n) :: .colon :: (v.tokens ++ .comma :: memberTokens (m :: ms))

end

/-- The characters of the compact text of a value. -/
def printChars (v : Value) : List Char := v.tokens.flatMap Token.print

/-- The compact text of a value. -/
def print (v : Value) : String := String.ofList v.printChars

end PlayerHub.Json.Value
