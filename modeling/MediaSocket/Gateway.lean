import MediaSocket.Dispatcher
import MediaSocket.Relay

/-!
A dispatcher together with the relay that carries its DTLS records to the key server. Replies of
the server go back through the dispatcher to the peer whose record they answer.
-/

namespace MediaSocket

structure Gateway where
  dispatcher : Dispatcher
  relay : Relay

namespace Gateway

/-- What leaves a gateway: datagrams to peers and records to the key server. -/
inductive Output where
  | peer (w : Write)
  | server (sent : Relayed)
  deriving DecidableEq, Repr

/-- Carry out an effect of the dispatcher. What the relay does not take is dropped. -/
def perform (net : Network) (now : Time) (r : Relay) : Effect → Relay × List Output
  | .write w => (r, [.peer w])
  | .tunnel call =>
    match r.carry net call now with
    | (r', .ok sent) => (r', [.server sent])
    | (r', .error _) => (r', [])

def performAll (net : Network) (now : Time) (r : Relay) : List Effect → Relay × List Output
  | [] => (r, [])
  | e :: rest =>
    let (r, front) := perform net now r e
    let (r, back) := performAll net now r rest
    (r, front ++ back)

def receive (g : Gateway) (net : Network) (now : Time) (source : Address) (datagram : Bytes) :
    Gateway × List Output :=
  let (dispatcher, effects) := g.dispatcher.receive net now source datagram
  let (relay, outputs) := performAll net now g.relay effects
  (⟨dispatcher, relay⟩, outputs)

/-- A datagram of the key server arrives on a relay socket. What the dispatcher refuses to send is
dropped. -/
def reply (g : Gateway) (net : Network) (socket : Nat) (datagram : Bytes) : List Output :=
  match g.relay.reply? socket datagram with
  | none => []
  | some (id, record) =>
    match g.dispatcher.send net id record with
    | .ok w => [.peer w]
    | .error _ => []

inductive Arrival where
  /-- A datagram of a peer. -/
  | peer (source : Address) (datagram : Bytes)
  /-- A datagram of the key server, on a relay socket. -/
  | server (socket : Nat) (datagram : Bytes)
  deriving DecidableEq, Repr

def handle (g : Gateway) (net : Network) (now : Time) : Arrival → Gateway × List Output
  | .peer source datagram => g.receive net now source datagram
  | .server socket datagram => (g, g.reply net socket datagram)

/-- What comes of arrivals one after the other, each with its time. -/
def handleAll (g : Gateway) (net : Network) : List (Time × Arrival) → Gateway × List Output
  | [] => (g, [])
  | (now, a) :: rest =>
    let (g, front) := g.handle net now a
    let (g, back) := g.handleAll net rest
    (g, front ++ back)

/-- A round of maintenance: silent peers are forgotten. -/
def tick (g : Gateway) (now : Time) : Gateway :=
  { g with dispatcher := g.dispatcher.tick g.dispatcher.config.idleTimeout now }

/-- A round of the relay: idle sessions are closed, after as much silence as makes a peer be
forgotten. -/
def reap (g : Gateway) (now : Time) : Gateway :=
  match g.dispatcher.config.idleTimeout with
  | none => g
  | some maxIdle => { g with relay := (g.relay.closeIdle maxIdle now).1 }

end Gateway

end MediaSocket
