import MediaSocket.Association.Change
import MediaSocket.Dispatcher

/-!
Routing with everything that can go wrong: a message that is no STUN, a tunnel or a network that
takes nothing, media of a peer that is not known. What goes wrong is noted and nothing is made of it.
-/

namespace MediaSocket.Router

/-- A datagram to route, with the time and with what is around the router then. -/
structure Occasion where
  packet : Packet
  now : Time
  net : Network
  /-- Why the tunnel does not take a call, if it does not. -/
  fault : TunnelCall → Option Error

/-- What the registry makes of an occasion. -/
def Occasion.sighting (o : Occasion) : Registry.Change := .register o.packet.source o.now

/-- What has been done about a datagram, and what has gone wrong. -/
structure Handled where
  effects : List Effect
  failure : Option Error

def handleStun (router : Router) (o : Occasion) : Handled :=
  match router.responder.handle o.packet.payload o.packet.source with
  | .ok (some reply) =>
    let w := o.net.write router.bound o.packet.source reply
    ⟨[.write w], if w.sent then none else some Dispatcher.unsent⟩
  | .ok none => ⟨[], none⟩
  | .error e => ⟨[], some (.stun e)⟩

def handleDtls (router : Router) (id : AssociationId) (o : Occasion) : Handled :=
  let call := TunnelCall.of router.offer id o.packet.payload
  ⟨[.tunnel call], o.fault call⟩

def handleSrtp (router : Router) (r : Registry) (id : AssociationId) (o : Occasion) : Handled :=
  match router.policy.forward o.net router.bound r id o.packet.payload with
  | (.ok _, writes) => ⟨writes.map .write, none⟩
  | (.error e, writes) => ⟨writes.map .write, some e⟩

/-- Route a datagram and note what goes wrong. -/
def handle (router : Router) (r : Registry) (o : Occasion) : Registry × Handled :=
  let r' := r.register o.packet.source o.now
  let id := r.resolve o.packet.source
  (r', match PacketClass.of o.packet.payload with
    | .stun => router.handleStun o
    | .dtls => router.handleDtls id o
    | .srtp => router.handleSrtp r' id o
    | .unknown => ⟨[], none⟩)

/-- Route datagrams one after the other. -/
def handleAll (router : Router) (r : Registry) : List Occasion → Registry × List Effect
  | [] => (r, [])
  | o :: rest =>
    let (r, handled) := router.handle r o
    let (r, effects) := router.handleAll r rest
    (r, handled.effects ++ effects)

end MediaSocket.Router
