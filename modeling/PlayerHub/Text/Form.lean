import PlayerHub.Text.Hex
import PlayerHub.Text.Utf8

namespace PlayerHub.Form

/-- Whether a byte stands for itself. -/
def isPlain (b : UInt8) : Bool :=
  Utf8.within 48 57 b || Utf8.within 65 90 b || Utf8.within 97 122 b ||
    b == 42 || b == 45 || b == 46 || b == 95

/-- The written form of a byte. -/
def escapeByte (b : UInt8) : List Char :=
  if isPlain b then [Char.ofNat b.toNat]
  else if b == 32 then ['+']
  else '%' :: Hex.ofByte b

/-- The written form of a name or a value. -/
def escape (s : String) : List Char := (Utf8.ofString s).flatMap escapeByte

/-- The written form of one pair. -/
def encodePair (p : String × String) : List Char := escape p.1 ++ '=' :: escape p.2

/-- The written form of a list of pairs, as `application/x-www-form-urlencoded` has it. -/
def encode (pairs : List (String × String)) : List Char :=
  ['&'].intercalate (pairs.map encodePair)

/-- The bytes of a text with escapes in which a plus sign stands for the byte `plus`. A `%` without
two digits after it stands for itself. -/
def percentDecode (plus : UInt8) : List Char → List UInt8
  | [] => []
  | '+' :: s => plus :: percentDecode plus s
  | '%' :: a :: b :: s =>
    match Hex.digit? a, Hex.digit? b with
    | some x, some y => Hex.byte x y :: percentDecode plus s
    | _, _ => Utf8.encode ['%'] ++ percentDecode plus (a :: b :: s)
  | c :: s => Utf8.encode [c] ++ percentDecode plus s

/-- The bytes of a written name or value, in which a plus sign is a space. -/
def unescape : List Char → List UInt8 := percentDecode 32

/-- The text of a written name or value. -/
def text (s : List Char) : String := String.ofList (Utf8.decodeLossy (unescape s))

/-- The pair that a part between two `&` writes; without `=` it is a name with an empty value. -/
def decodePair (s : List Char) : String × String :=
  (text (s.takeWhile (· != '=')), text ((s.dropWhile (· != '=')).drop 1))

/-- The parts of a text between its separators. -/
def splitOn (sep : Char) : List Char → List (List Char)
  | [] => [[]]
  | c :: s =>
    if c = sep then [] :: splitOn sep s
    else
      match splitOn sep s with
      | [] => [[c]]
      | part :: parts => (c :: part) :: parts

/-- The pairs of a written list. Empty parts are skipped. -/
def decode (s : List Char) : List (String × String) :=
  ((splitOn '&' s).filter (· != [])).map decodePair

end PlayerHub.Form
