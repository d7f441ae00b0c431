import PlayerHub.Digest.Sha256

namespace PlayerHub.Hmac

/-- The key as a block of sixty-four bytes. A longer key is replaced by its digest first, and what
is then too short is filled up with zero bytes. -/
def blockKey (key : List UInt8) : List UInt8 :=
  let k := if key.length ≤ 64 then key else Sha256.digest key
  k ++ List.replicate (64 - k.length) 0

/-- The keyed digest of a message. -/
def mac (key message : List UInt8) : List UInt8 :=
  let k := blockKey key
  let inner := Sha256.digest (k.map (· ^^^ 0x36) ++ message)
  Sha256.digest (k.map (· ^^^ 0x5c) ++ inner)

end PlayerHub.Hmac
