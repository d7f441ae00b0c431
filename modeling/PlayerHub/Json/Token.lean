import PlayerHub.Json.Number
import PlayerHub.Json.Quoted
import PlayerHub.Text.Hex

namespace PlayerHub.Json

/-- A word of a JSON text. -/
inductive Token where
  | openList
  | closeList
  | openRecord
  | closeRecord
  | comma
  | colon
  | null
  | bool (b : Bool)
  | number (value : Number)
  | text (value : Quoted)
deriving DecidableEq, Repr

/-- The written form of a character inside a string. -/
def escape (c : Char) : List Char :=
  if c = '"' then ['\\', '"']
  else if c = '\\' then ['\\', '\\']
  else if c = '\x08' then ['\\', 'b']
  else if c = '\x0c' then ['\\', 'f']
  else if c = '\n' then ['\\', 'n']
  else if c = '\r' then ['\\', 'r']
  else if c = '\t' then ['\\', 't']
  else if c.toNat < 32 then
    ['\\', 'u', '0', '0', Hex.lower (Hex.ofNat (c.toNat / 16)), Hex.lower (Hex.ofNat c.toNat)]
  else [c]

/-- A written form of a number. One that is no plain integer is written as any number that readers
take in or fail to take in at the same place. -/
def Number.print : Number → List Char
  | .int i => Decimal.signed i
  | .other none => ['-', '0']
  | .other (some .atEnd) => '1' :: 'e' :: Decimal.digits 309
  | .other (some .inside) => '1' :: 'e' :: Decimal.digits (10 * (Numeral.maxExponent + 1))

/-- A written form of a string. One that is no text is written as half of a surrogate pair, the
first half if readers get to its end. -/
def Quoted.print : Quoted → List Char
  | .plain s => '"' :: (s.toList.flatMap escape ++ ['"'])
  | .flawed .atEnd => ['"', '\\', 'u', 'd', '8', '0', '0', '"']
  | .flawed .inside => ['"', '\\', 'u', 'd', 'c', '0', '0', '"']

/-- The written form of a token. -/
def Token.print : Token → List Char
  | .openList => ['[']
  | .closeList => [']']
  | .openRecord => ['\x7b']
  | .closeRecord => ['\x7d']
  | .comma => [',']
  | .colon => [':']
  | .null => ['n', 'u', 'l', 'l']
  | .bool true => ['t', 'r', 'u', 'e']
  | .bool false => ['f', 'a', 'l', 's', 'e']
  | .number value => value.print
  | .text value => value.print

end PlayerHub.Json
