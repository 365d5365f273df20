/-
# Keyed digests

HMAC over SHA-256: the message is hashed after the key combined with one pad, and the
result is hashed again after the key combined with another.  A key longer than a block is
replaced by its digest, so that every byte sequence is a key.
-/
import ChatRelay.Digest.Sha256

namespace ChatRelay.Digest.Hmac

/-- The key as one block: hashed if it is too long, then filled up with zeros. -/
def keyBlock (key : List UInt8) : List UInt8 :=
  let short := if key.length ≤ 64 then key else Sha256.hash key
  short ++ List.replicate (64 - short.length) 0

/-- The key combined with a pad. -/
def padded (key : List UInt8) (pad : UInt8) : List UInt8 := (keyBlock key).map (· ^^^ pad)

/-- The keyed digest of a message. -/
def mac (key message : List UInt8) : List UInt8 :=
  Sha256.hash (padded key 0x5C ++ Sha256.hash (padded key 0x36 ++ message))

end ChatRelay.Digest.Hmac
