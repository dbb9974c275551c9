import MediaSocket.Address

/-! Datagrams of the shared socket and the protocol that their first byte announces. -/

namespace MediaSocket

/-- The protocols that share the socket. -/
inductive PacketClass where
  | dtls
  | srtp
  | stun
  | unknown
  deriving DecidableEq, Repr

namespace PacketClass

/-- The class of a datagram that starts with this byte. -/
def ofByte (first : UInt8) : PacketClass :=
  if first ≤ 1 then .stun
  else if 20 ≤ first ∧ first ≤ 63 then .dtls
  else if 128 ≤ first ∧ first ≤ 191 then .srtp
  else .unknown

/-- The class of a datagram; an empty one announces nothing. -/
def of : Bytes → PacketClass
  | [] => .unknown
  | first :: _ => ofByte first

def text : PacketClass → String
  | .dtls => "DTLS"
  | .srtp => "SRTP"
  | .stun => "STUN"
  | .unknown => "unknown"

theorem ofByte_eq_stun_iff {first : UInt8} : ofByte first = .stun ↔ first ≤ 1 := by
  unfold ofByte
  split
  · simpa using ‹first ≤ 1›
  · split
    · simpa using ‹¬first ≤ 1›
    · split <;> simpa using ‹¬first ≤ 1›

theorem of_eq_stun_iff {raw : Bytes} :
    of raw = .stun ↔ ∃ first rest, raw = first :: rest ∧ first ≤ 1 := by
  cases raw with
  | nil => simp [of]
  | cons first rest => simp [of, ofByte_eq_stun_iff]

end PacketClass

structure Packet where
  source : Address
  payload : Bytes
  deriving DecidableEq, Repr

end MediaSocket
