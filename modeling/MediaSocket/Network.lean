import MediaSocket.Address

/-! What the network of a host lets its UDP sockets do. -/

namespace MediaSocket

/-- What the network of a host lets its UDP sockets do. -/
structure Network where
  /-- Whether a socket can be bound to an address. -/
  binds : Address → Bool
  /-- Whether a socket can be connected to an address. -/
  connects : Address → Bool
  /-- Whether a socket bound to a host takes a datagram for an address. -/
  sends : Ip → Address → Bytes → Bool

/-- A datagram that was handed to a socket, and whether the socket took it. -/
structure Write where
  target : Address
  payload : Bytes
  sent : Bool
  deriving DecidableEq, Repr

namespace Network

/-- Hand a datagram to a socket that is bound to `source`. -/
def write (net : Network) (source : Ip) (target : Address) (payload : Bytes) : Write :=
  ⟨target, payload, net.sends source target payload⟩

/-- Whether a datagram can leave at all: it has at most 65507 bytes, it goes to a port other than
0, and both ends are of one family. -/
def carries (source : Ip) (target : Address) (payload : Bytes) : Bool :=
  payload.length ≤ 65507 && target.port != 0 &&
    match source, target with
    | .v4 _, .v4 .. => true
    | .v6 _, .v6 .. => true
    | _, _ => false

/-- The network of a host that reaches every address. -/
def connected : Network where
  binds _ := true
  connects a := a.port != 0
  sends := carries

/-- The network of a host without any interface: sockets can be bound to every IPv4 address, of
IPv6 only to the unspecified address and to mapped IPv4 ones, and there is no route to anywhere. -/
def isolated : Network where
  binds
    | .v4 .. => true
    | .v6 ip _ _ _ => ip == .unspecified || ip.mapped?.isSome
  connects _ := false
  sends _ _ _ := false

/-- What the host says when there is no route to an address. -/
def unreachable : String := "Network is unreachable (os error 101)"

/-- What the host says when a socket cannot be bound to an address. -/
def notLocal : String := "Cannot assign requested address (os error 99)"

/-- What the host says when a port is held by another socket. -/
def addressInUse : String := "Address already in use (os error 98)"

end Network

end MediaSocket
