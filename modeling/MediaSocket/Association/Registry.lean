import MediaSocket.Association.Id
import MediaSocket.Srtp.Profile
import MediaSocket.Table
import MediaSocket.Time

/-!
The registry of peers. The first address that was seen with an id stays the address of that id
until the peer has been silent for too long.
-/

namespace MediaSocket

structure Peer where
  /-- The address that the id was first seen with. -/
  address : Address
  keys : Option Srtp.Negotiated
  firstSeen : Time
  lastSeen : Time
  deriving DecidableEq, Repr

structure Registry where
  width : IdWidth
  peers : Table AssociationId Peer

namespace Registry

def empty (width : IdWidth) : Registry := ⟨width, .empty⟩

/-- The id that an address has here. -/
def resolve (r : Registry) (a : Address) : AssociationId := .derive a r.width

def get? (r : Registry) (id : AssociationId) : Option Peer := r.peers.get? id

def contains (r : Registry) (id : AssociationId) : Bool := r.peers.contains id

def size (r : Registry) : Nat := r.peers.size

def isEmpty (r : Registry) : Bool := r.size == 0

def addressOf? (r : Registry) (id : AssociationId) : Option Address := (r.get? id).map Peer.address

def keysOf? (r : Registry) (id : AssociationId) : Option Srtp.Negotiated :=
  (r.get? id).bind Peer.keys

/-- The peer after a datagram with its id was seen from `a`. -/
def seen (known : Option Peer) (a : Address) (now : Time) : Peer :=
  match known with
  | some peer => { peer with lastSeen := now }
  | none => ⟨a, none, now, now⟩

/-- The registry after a datagram from `a`. -/
def register (r : Registry) (a : Address) (now : Time) : Registry :=
  let id := r.resolve a
  { r with peers := r.peers.insert id (seen (r.get? id) a now) }

/-- The registry with keys for a known id; `none` if the id is unknown. -/
def setKeys? (r : Registry) (id : AssociationId) (keys : Srtp.Negotiated) : Option Registry :=
  (r.get? id).map fun peer =>
    { r with peers := r.peers.insert id { peer with keys := some keys } }

/-- The registry without the peers that have been silent for `maxIdle` or longer. -/
def prune (r : Registry) (maxIdle : Span) (now : Time) : Registry :=
  { r with peers := r.peers.filter fun e => now - e.2.lastSeen < maxIdle }

/-- Every address but that of `id`. -/
def addressesExcluding (r : Registry) (id : AssociationId) : List Address :=
  (r.peers.entries.filter fun e => e.1 ≠ id).map fun e => e.2.address

/-- Ids and addresses in the order of the ids. -/
def snapshot (r : Registry) : List (AssociationId × Address) :=
  (r.peers.entries.map fun e => (e.1, e.2.address)).mergeSort fun x y => decide (x.1 ≤ y.1)

end Registry

end MediaSocket
