import MediaSocket.Bytes

/-! What SHA-1 and SHA-256 share: padding to whole blocks of 64 bytes, and a block as words. -/

namespace MediaSocket.Digest

def rotl (w : UInt32) (n : UInt32) : UInt32 := (w <<< n) ||| (w >>> (32 - n))

def rotr (w : UInt32) (n : UInt32) : UInt32 := (w >>> n) ||| (w <<< (32 - n))

/-- The message, a one bit, zeros up to the last eight bytes of a block, and the length in bits. -/
def pad (message : Bytes) : Bytes :=
  message ++ 0x80 :: List.replicate ((119 - message.length % 64) % 64) 0 ++
    Bytes.ofCount (message.length * 8)

/-- The first `count` pieces of `size` bytes. -/
def pieces (size : Nat) : Nat → Bytes → List Bytes
  | 0, _ => []
  | count + 1, bytes => bytes.take size :: pieces size count (bytes.drop size)

def blocks (message : Bytes) : List Bytes :=
  let padded := pad message
  pieces 64 (padded.length / 64) padded

/-- Bytes as big-endian words; up to three bytes that are left over count for nothing. -/
def words : Bytes → List UInt32
  | a :: b :: c :: d :: rest => Bytes.toUInt32 a b c d :: words rest
  | _ => []

/-- `count` more words of a schedule, each made from the 16 words before it, the latest first. -/
def expand (next : List UInt32 → UInt32) : Nat → List UInt32 → List UInt32
  | 0, latest => latest
  | count + 1, latest => expand next count (next latest :: latest)

def schedule (next : List UInt32 → UInt32) (count : Nat) (block : Bytes) : List UInt32 :=
  (expand next count (words block).reverse).reverse

end MediaSocket.Digest
