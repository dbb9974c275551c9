import MediaSocket.Digest.Sha1

/-! HMAC-SHA1. -/

namespace MediaSocket.Digest.Hmac

/-- The key as one block: a key longer than a block is digested first, a shorter one is followed
by zeros. -/
def blockKey (key : Bytes) : Bytes :=
  let short := if key.length ≤ 64 then key else Sha1.digest key
  short ++ List.replicate (64 - short.length) 0

/-- The 20 bytes of the code of a message under a key. -/
def sha1 (key message : Bytes) : Bytes :=
  let k := blockKey key
  Sha1.digest (k.map (· ^^^ 0x5C) ++ Sha1.digest (k.map (· ^^^ 0x36) ++ message))

end MediaSocket.Digest.Hmac
