import MediaSocket.Bytes

/-! The CRC-32 of IEEE 802.3, bit by bit. -/

namespace MediaSocket.Crc32

/-- The generator polynomial, the lowest power in the highest bit. -/
def polynomial : UInt32 := 0xEDB88320

/-- One bit of polynomial division. -/
def step (r : UInt32) : UInt32 :=
  if r &&& 1 = 1 then (r >>> 1) ^^^ polynomial else r >>> 1

/-- Eight steps, the bits of one byte. -/
def step8 (r : UInt32) : UInt32 :=
  step (step (step (step (step (step (step (step r)))))))

def feed (r : UInt32) (b : UInt8) : UInt32 :=
  step8 (r ^^^ UInt32.ofNat b.toNat)

def checksum (bytes : Bytes) : UInt32 :=
  bytes.foldl feed 0xFFFFFFFF ^^^ 0xFFFFFFFF

end MediaSocket.Crc32
