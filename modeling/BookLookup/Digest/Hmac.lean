import BookLookup.Digest.Sha256

/-!
# HMAC over SHA-256

A key is filled with zeros to a block of 64 octets; a longer key is replaced
by its digest first. The code of a message is the digest of the outer key
followed by the digest of the inner key followed by the message.
-/

namespace BookLookup
namespace Hmac

/-- The octets of a block. -/
def blockSize : Nat := 64

/-- A key that fills one block. -/
def blockKey (key : List UInt8) : List UInt8 :=
  let short := if blockSize < key.length then Sha256.digest key else key
  short ++ List.replicate (blockSize - short.length) 0

/-- The code of a message under a key. -/
def code (key message : List UInt8) : List UInt8 :=
  let block := blockKey key
  Sha256.digest (block.map (· ^^^ 0x5C) ++
    Sha256.digest (block.map (· ^^^ 0x36) ++ message))

@[simp] theorem length_code (key message : List UInt8) :
    (code key message).length = 32 := rfl

end Hmac
end BookLookup
