import PlayerHub.Json.Record
import PlayerHub.Text.Hex

namespace PlayerHub

/-- A UUID, as its thirty-two hexadecimal digits. -/
structure Uuid where
  digits : List (Fin 16)
  length_digits : digits.length = 32
deriving DecidableEq, Repr

/-- The id of a user. -/
abbrev UserId := Uuid

namespace Uuid

/-- The UUID with the given digits, if there are thirty-two. -/
def ofDigits? (ds : List (Fin 16)) : Option Uuid :=
  if h : ds.length = 32 then some ⟨ds, h⟩ else none

/-- The lengths of the groups of digits. -/
def groups : List Nat := [8, 4, 4, 4, 12]

/-- Writes digits in groups of the given lengths, with hyphens between them. -/
def printGroups : List Nat → List (Fin 16) → List Char
  | [], _ => []
  | [n], ds => (ds.take n).map Hex.lower
  | n :: ns, ds => (ds.take n).map Hex.lower ++ '-' :: printGroups ns (ds.drop n)

/-- The characters of the canonical text. -/
def printChars (u : Uuid) : List Char := printGroups groups u.digits

/-- The canonical text. -/
def print (u : Uuid) : String := String.ofList u.printChars

/-- Reads groups of digits of the given lengths, with hyphens between them and nothing after. -/
def readGroups : List Nat → List Char → Option (List (Fin 16))
  | [], s => if s = [] then some [] else none
  | [n], s => if s.length = n then s.mapM Hex.digit? else none
  | n :: ns, s => do
    let ds ← (s.take n).mapM Hex.digit?
    match s.drop n with
    | '-' :: s => return ds ++ (← readGroups ns s)
    | _ => none

/-- What follows the text `urn:uuid:`, in any case, at the start. -/
def afterUrn? (s : List Char) : Option (List Char) :=
  if (s.take 9).map Char.toLower = ['u', 'r', 'n', ':', 'u', 'u', 'i', 'd', ':'] then
    some (s.drop 9)
  else none

/-- The digits that a text writes in one of the four forms, told apart by their lengths: the
canonical one, the digits without hyphens, and the canonical one in braces or behind
`urn:uuid:`. -/
def readDigits? (s : List Char) : Option (List (Fin 16)) :=
  if s.length = 32 then s.mapM Hex.digit?
  else if s.length = 36 then readGroups groups s
  else if s.length = 38 then
    if s.head? = some '\x7b' ∧ s.getLast? = some '\x7d' then readGroups groups ((s.drop 1).take 36)
    else none
  else if s.length = 45 then (afterUrn? s).bind (readGroups groups)
  else none

/-- The UUID that a text writes. -/
def parse? (s : String) : Option Uuid := (readDigits? s.toList).bind ofDigits?

/-- The JSON form of a UUID. -/
def toJson (u : Uuid) : Json.Value := .str u.print

/-- Reads a UUID from its JSON form. -/
def ofJson? (v : Json.Value) : Option Uuid := v.str?.bind parse?

end Uuid

end PlayerHub
