import PlayerHub.Platform.Host

namespace PlayerHub

/-- A web address of the schemes `http` and `https`, with its path and its query in the form in
which they are sent. The authority is the host and all else that stands between the slashes and the
path. -/
structure Address where
  secure : Bool
  authority : List Char
  path : List Char
  query : Option (List Char)
deriving DecidableEq, Repr

namespace Address

/-- Whether no part of an address sends a character as it is. -/
def isNeverPlain (c : Char) : Bool :=
  c.toNat ≤ 0x20 || 0x7F ≤ c.toNat || c == '"' || c == '<' || c == '>'

/-- Whether a path sends a character escaped. -/
def isPathEscaped (c : Char) : Bool :=
  isNeverPlain c || c == '#' || c == '?' || c == '\x60' || c == '\x7b' || c == '\x7d'

/-- Whether a query sends a character escaped. -/
def isQueryEscaped (c : Char) : Bool := isNeverPlain c || c == '#' || c == '\''

/-- A text with the characters of a class escaped. -/
def escape (escaped : Char → Bool) (s : List Char) : List Char :=
  s.flatMap fun c =>
    if escaped c then (Utf8.encode [c]).flatMap fun b => '%' :: Hex.ofByte b else [c]

/-- A path segment with its escaped dots written out. -/
def plainDots : List Char → List Char
  | '%' :: '2' :: 'e' :: s => '.' :: plainDots s
  | '%' :: '2' :: 'E' :: s => '.' :: plainDots s
  | c :: s => c :: plainDots s
  | [] => []

/-- The segments of a resolved path, last first, after the given segments have been walked. -/
def walk : List (List Char) → List (List Char) → List (List Char)
  | done, [] => done
  | done, s :: rest =>
    if plainDots s = ['.', '.'] then
      walk (if rest = [] then [] :: done.drop 1 else done.drop 1) rest
    else if plainDots s = ['.'] then walk (if rest = [] then [] :: done else done) rest
    else walk (escape isPathEscaped s :: done) rest

/-- The path as it is sent: the segments `.` and `..` are resolved, and escapes that are there
already are left alone. -/
def normalPath (s : List Char) : List Char :=
  let slashes := s.map fun c => if c = '\\' then '/' else c
  let inside := if slashes.head? = some '/' then slashes.drop 1 else slashes
  '/' :: ['/'].intercalate (walk [] (Form.splitOn '/' inside)).reverse

/-- Whether an authority names a host, and a port only as a number. What stands before the last at
sign says who calls. -/
def isUsable (authority : List Char) : Bool :=
  let place := (authority.reverse.takeWhile (· != '@')).reverse
  let (host, rest) := Host.span false place
  let port := rest.drop 1
  Host.isValid host && port.all Decimal.isDigit && Decimal.value port < 65536

/-- What follows the scheme, and whether that is `https`. -/
def afterScheme? (s : List Char) : Option (Bool × List Char) :=
  if (s.take 5).map Char.toLower = "http:".toList then some (false, s.drop 5)
  else if (s.take 6).map Char.toLower = "https:".toList then some (true, s.drop 6)
  else none

/-- A text without the characters that are passed over in an address. -/
def trimmed (text : String) : List Char :=
  ((text.toList.dropWhile (·.toNat ≤ 0x20)).reverse.dropWhile (·.toNat ≤ 0x20)).reverse.filter
    fun c => c != '\t' && c != '\n' && c != '\r'

/-- Whether a character is taken for a slash. -/
def isSlash (c : Char) : Bool := c == '/' || c == '\\'

/-- Whether a character ends the authority of an address. -/
def endsAuthority (c : Char) : Bool := isSlash c || c == '?' || c == '#'

/-- The address that a text writes, if it writes one that can be called. -/
def parse? (text : String) : Option Address := do
  let (secure, s) ← afterScheme? (trimmed text)
  let s := s.dropWhile isSlash
  let authority := s.takeWhile (!endsAuthority ·)
  let s := (s.dropWhile (!endsAuthority ·)).takeWhile (· != '#')
  let path := s.takeWhile (· != '?')
  let query := match s.dropWhile (· != '?') with
    | _ :: q => some (escape isQueryEscaped q)
    | [] => none
  if isUsable authority then return ⟨secure, authority, normalPath path, query⟩ else none

/-- The address with pairs added to its query. -/
def addPairs (a : Address) (pairs : List (String × String)) : Address :=
  { a with
    query := match a.query with
      | none => some (Form.encode pairs)
      | some [] => some (Form.encode pairs)
      | some q => some (q ++ '&' :: Form.encode pairs) }

/-- The path and the query, as a request names them. -/
def target (a : Address) : String :=
  String.ofList (a.path ++ match a.query with
    | none => []
    | some q => '?' :: q)

end Address

end PlayerHub
