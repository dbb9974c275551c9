import MediaSocket.Digest.Block

/-! SHA-1. -/

namespace MediaSocket.Digest.Sha1

structure State where
  a : UInt32
  b : UInt32
  c : UInt32
  d : UInt32
  e : UInt32
  deriving DecidableEq, Repr

def State.initial : State := ⟨0x67452301, 0xEFCDAB89, 0x98BADCFE, 0x10325476, 0xC3D2E1F0⟩

def nextWord (latest : List UInt32) : UInt32 :=
  rotl (latest.getD 2 0 ^^^ latest.getD 7 0 ^^^ latest.getD 13 0 ^^^ latest.getD 15 0) 1

/-- The function and the constant of a round. -/
def mix (round : Nat) (b c d : UInt32) : UInt32 × UInt32 :=
  if round < 20 then ((b &&& c) ||| (~~~b &&& d), 0x5A827999)
  else if round < 40 then (b ^^^ c ^^^ d, 0x6ED9EBA1)
  else if round < 60 then ((b &&& c) ||| (b &&& d) ||| (c &&& d), 0x8F1BBCDC)
  else (b ^^^ c ^^^ d, 0xCA62C1D6)

def State.round (s : State) (word : UInt32 × Nat) : State :=
  let (f, k) := mix word.2 s.b s.c s.d
  ⟨rotl s.a 5 + f + s.e + k + word.1, s.a, rotl s.b 30, s.c, s.d⟩

def State.compress (s : State) (block : Bytes) : State :=
  let t := (schedule nextWord 64 block).zipIdx.foldl State.round s
  ⟨s.a + t.a, s.b + t.b, s.c + t.c, s.d + t.d, s.e + t.e⟩

def State.bytes (s : State) : Bytes :=
  Bytes.ofUInt32 s.a ++ Bytes.ofUInt32 s.b ++ Bytes.ofUInt32 s.c ++ Bytes.ofUInt32 s.d ++
    Bytes.ofUInt32 s.e

def digest (message : Bytes) : Bytes :=
  ((blocks message).foldl State.compress State.initial).bytes

@[simp] theorem length_digest (message : Bytes) : (digest message).length = 20 := rfl

end MediaSocket.Digest.Sha1
