import MediaSocket.Bytes

/-! Internet addresses: IPv4 and IPv6 hosts, and the transport addresses of peers. -/

namespace MediaSocket

structure Ipv4 where
  octets : Vector UInt8 4
  deriving DecidableEq, Repr

structure Ipv6 where
  octets : Vector UInt8 16
  deriving DecidableEq, Repr

inductive Ip where
  | v4 (ip : Ipv4)
  | v6 (ip : Ipv6)
  deriving DecidableEq, Repr

/-- A transport address. The flow label and the scope of an IPv6 address are numbers beside the
host. -/
inductive Address where
  | v4 (ip : Ipv4) (port : UInt16)
  | v6 (ip : Ipv6) (port : UInt16) (flow scope : UInt32)
  deriving DecidableEq, Repr

namespace Ipv4

/-- The first bytes of a list, filled up with zeros. -/
def ofBytes (bytes : Bytes) : Ipv4 := ⟨Vector.ofFn fun i => bytes.getD i 0⟩

def unspecified : Ipv4 := ofBytes []

def loopback : Ipv4 := ofBytes [127, 0, 0, 1]

theorem ofBytes_octets (ip : Ipv4) : ofBytes ip.octets.toList = ip := by
  obtain ⟨octets⟩ := ip
  rw [ofBytes, Ipv4.mk.injEq]
  ext i
  simp

end Ipv4

namespace Ipv6

def ofBytes (bytes : Bytes) : Ipv6 := ⟨Vector.ofFn fun i => bytes.getD i 0⟩

def unspecified : Ipv6 := ofBytes []

def loopback : Ipv6 := ofBytes (List.replicate 15 0 ++ [1])

theorem ofBytes_octets (ip : Ipv6) : ofBytes ip.octets.toList = ip := by
  obtain ⟨octets⟩ := ip
  rw [ofBytes, Ipv6.mk.injEq]
  ext i
  simp

def ofGroups (groups : List UInt16) : Ipv6 := ofBytes (groups.flatMap Bytes.ofUInt16)

/-- Bytes as big-endian groups of 16 bits. -/
def pairs : Bytes → List UInt16
  | high :: low :: rest => Bytes.toUInt16 high low :: pairs rest
  | _ => []

/-- The eight groups of 16 bits. -/
def groups (ip : Ipv6) : List UInt16 := pairs ip.octets.toList

/-- The IPv4 host that an address in `::ffff:0:0/96` stands for. -/
def mapped? (ip : Ipv6) : Option Ipv4 :=
  if ip.octets.toList.take 12 = List.replicate 10 0 ++ [0xFF, 0xFF] then
    some (.ofBytes (ip.octets.toList.drop 12))
  else none

end Ipv6

namespace Ip

/-- The bytes of a host, the first one first. -/
def octets : Ip → Bytes
  | .v4 ip => ip.octets.toList
  | .v6 ip => ip.octets.toList

/-- Whether this is the address that stands for every local one. -/
def isUnspecified (ip : Ip) : Bool := ip.octets.all (· == 0)

end Ip

namespace Address

/-- The address of a port on a host, without flow label and scope. -/
def mk (ip : Ip) (port : UInt16) : Address :=
  match ip with
  | .v4 ip => .v4 ip port
  | .v6 ip => .v6 ip port 0 0

def ip : Address → Ip
  | .v4 ip _ => .v4 ip
  | .v6 ip _ _ _ => .v6 ip

def port : Address → UInt16
  | .v4 _ port => port
  | .v6 _ port _ _ => port

def isIpv4 : Address → Bool
  | .v4 .. => true
  | .v6 .. => false

/-- The flow label and the scope; an IPv4 address has none. -/
def flowAndScope : Address → Bytes
  | .v4 .. => []
  | .v6 _ _ flow scope => Bytes.ofUInt32 flow ++ Bytes.ofUInt32 scope

/-- What addresses are sorted by: IPv4 before IPv6, then the host, then the port, then flow label
and scope. -/
def sortKey (a : Address) : Bytes :=
  (if a.isIpv4 then 4 else 6) :: a.ip.octets ++ Bytes.ofUInt16 a.port ++ a.flowAndScope

def sort (addresses : List Address) : List Address :=
  addresses.mergeSort fun a b => decide (a.sortKey ≤ b.sortKey)

end Address

end MediaSocket
