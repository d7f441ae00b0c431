import PlayerHub.Text.Decimal
import PlayerHub.Text.Form

namespace PlayerHub.Host

/-- Whether a character of ASCII can stand in no host. What lies beyond ASCII belongs to names in
other scripts, of which only the network knows whether they exist, as it does of names that write
such a name in ASCII. -/
def isForbidden (c : Char) : Bool :=
  c.toNat ≤ 0x20 || c.toNat == 0x7F || "\"#%/:<>?@[\\]^\x60\x7b|\x7d".toList.contains c

/-- The number that digits of a base write. No digits write zero. -/
def inBase? (base : Nat) (s : List Char) : Option Nat :=
  s.foldlM (fun n c => do
    let d ← Hex.digit? c
    if d.val < base then return n * base + d.val else none) 0

/-- The number that a part of an IPv4 address writes: in hexadecimal digits after `0x`, in octal
digits after any other zero, and in decimal digits otherwise. -/
def number? : List Char → Option Nat
  | [] => none
  | '0' :: 'x' :: s => inBase? 16 s
  | '0' :: 'X' :: s => inBase? 16 s
  | '0' :: c :: s => inBase? 8 (c :: s)
  | s => inBase? 10 s

/-- The parts of a host between its dots, without the empty one behind a dot at its end. -/
def labels (s : List Char) : List (List Char) :=
  let parts := Form.splitOn '.' s
  if parts.getLast? = some [] then parts.dropLast else parts

/-- Whether the last part of a host is a number, so that the host has to be an IPv4 address. -/
def endsInNumber (s : List Char) : Bool :=
  match (labels s).getLast? with
  | none => false
  | some last => last != [] && last.all Decimal.isDigit || (number? last).isSome

/-- Whether a host is an IPv4 address. It has up to four parts, and the last one stands for all the
bytes that the parts before it leave. -/
def isIpv4 (s : List Char) : Bool :=
  match (labels s).mapM number? with
  | none => false
  | some numbers =>
    numbers.length ≤ 4 && numbers.dropLast.all (· ≤ 255) &&
      numbers.getLastD 0 < 1 <<< (8 * (5 - numbers.length))

/-- Whether a text is one of the four numbers that may end an IPv6 address. -/
def isOctet (s : List Char) : Bool :=
  s != [] && s.all Decimal.isDigit && (s.length == 1 || s.head? != some '0') &&
    Decimal.value s ≤ 255

/-- Whether a text is a group of an IPv6 address. -/
def isGroup (s : List Char) : Bool :=
  s != [] && s.length ≤ 4 && s.all fun c => (Hex.digit? c).isSome

/-- How many groups the parts between the colons are. An address with dots in the last part counts
for two. -/
def groups? : List (List Char) → Option Nat
  | [] => some 0
  | [s] =>
    if isGroup s then some 1
    else
      let octets := Form.splitOn '.' s
      if octets.length = 4 ∧ octets.all isOctet then some 2 else none
  | s :: rest => if isGroup s then (groups? rest).map (· + 1) else none

/-- What stands before and behind the first double colon. -/
def splitGap? : List Char → Option (List Char × List Char)
  | ':' :: ':' :: s => some ([], s)
  | c :: s => (splitGap? s).map fun (before, after) => (c :: before, after)
  | [] => none

/-- The parts of a text between its colons. An empty text has no parts. -/
def colonParts (s : List Char) : List (List Char) := if s = [] then [] else Form.splitOn ':' s

/-- Whether a text is an IPv6 address: eight groups, or fewer with a gap of zeros. -/
def isIpv6 (s : List Char) : Bool :=
  match splitGap? s with
  | none => groups? (Form.splitOn ':' s) == some 8
  | some (before, after) =>
    (colonParts before).all isGroup &&
      (groups? (colonParts after)).any fun n => (colonParts before).length + n ≤ 7

/-- Whether a host that is a name, with its escapes read, is one that may be called. -/
def isName (s : List Char) : Bool :=
  s != [] && s.all (!isForbidden ·) &&
    (!s.all (·.toNat < 0x80) || !endsInNumber s || isIpv4 s)

/-- Whether a text is a host: an IPv6 address in brackets, an IPv4 address or a name. -/
def isValid (s : List Char) : Bool :=
  match s with
  | '[' :: inner => inner.getLast? == some ']' && isIpv6 inner.dropLast
  | _ => (Utf8.decode? (Form.percentDecode 43 s)).any isName

/-- The host and what follows it. Colons in brackets do not end the host. -/
def span (inBrackets : Bool) : List Char → List Char × List Char
  | [] => ([], [])
  | c :: s =>
    if c = ':' ∧ inBrackets = false then ([], c :: s)
    else
      let (host, rest) := span (c = '[' || inBrackets && c != ']') s
      (c :: host, rest)

end PlayerHub.Host
