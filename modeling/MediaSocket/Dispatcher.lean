import MediaSocket.Config
import MediaSocket.Tunnel

/-!
The dispatcher: one socket that all peers and all protocols share. A datagram is answered, handed
to the tunnel, relayed to other peers or dropped, according to its class; DTLS records for peers
go out on the same socket.
-/

namespace MediaSocket

inductive Phase where
  /-- Made, not yet listening. -/
  | idle
  /-- The socket is bound and datagrams are dispatched. -/
  | running
  /-- Being stopped. -/
  | draining
  /-- The socket is closed for good. -/
  | stopped
  deriving DecidableEq, Repr

def Phase.text : Phase → String
  | .idle => "idle"
  | .running => "running"
  | .draining => "draining"
  | .stopped => "stopped"

def Phase.describe : Phase → String
  | .idle => "Idle"
  | .running => "Running"
  | .draining => "Draining"
  | .stopped => "Stopped"

/-- What comes of a datagram: datagrams on the socket, and calls of the tunnel. -/
inductive Effect where
  | write (w : Write)
  | tunnel (call : TunnelCall)
  deriving DecidableEq, Repr

/-- What is needed to route datagrams, apart from the registry. -/
structure Router where
  /-- The host that the socket is bound to. -/
  bound : Ip
  responder : Stun.Responder
  /-- The profiles offered with every ClientHello. -/
  offer : List Srtp.Profile
  policy : Srtp.Policy

namespace Router

/-- What comes of a STUN message: at most a reply to where it came from. -/
def answer (router : Router) (net : Network) (p : Packet) : List Effect :=
  match router.responder.handle p.payload p.source with
  | .ok (some reply) => [.write (net.write router.bound p.source reply)]
  | _ => []

/-- What comes of a media packet: a copy to everybody it goes to. -/
def forward (router : Router) (net : Network) (r : Registry) (id : AssociationId)
    (payload : Bytes) : List Effect :=
  match router.policy.forward? net router.bound r id payload with
  | some writes => writes.map .write
  | none => []

/-- Route a datagram: its source is registered, then its class decides. -/
def route (router : Router) (net : Network) (r : Registry) (now : Time) (p : Packet) :
    Registry × List Effect :=
  let r' := r.register p.source now
  let id := r.resolve p.source
  (r', match PacketClass.of p.payload with
    | .stun => router.answer net p
    | .dtls => [.tunnel (.of router.offer id p.payload)]
    | .srtp => router.forward net r' id p.payload
    | .unknown => [])

end Router

structure Dispatcher where
  config : Config
  responder : Stun.Responder
  registry : Registry
  phase : Phase
  /-- The address of the open socket. -/
  socket : Option Address

namespace Dispatcher

/-- The responder that some settings ask for; `generated` signs its replies if they give no
password. -/
def responderFor (c : Config) (generated : String) : Except Error Stun.Responder := do
  let responder ←
    match c.icePassword with
    | some password => (Stun.Responder.withPassword password).mapError Error.stun
    | none => .ok ⟨generated, none⟩
  match c.software with
  | some software => (responder.withSoftware software).mapError Error.stun
  | none => .ok responder

/-- A dispatcher with some settings, which have to be in their ranges. -/
def new (c : Config) (generated : String) : Except Error Dispatcher := do
  c.validate
  let responder ← responderFor c generated
  return ⟨c, responder, .empty c.idWidth, .idle, none⟩

/-- The password that signs replies. -/
def icePassword (d : Dispatcher) : String := d.responder.password

/-- Known peers and their addresses. -/
def peers (d : Dispatcher) : List (AssociationId × Address) := d.registry.snapshot

/-- The most datagrams that a queue can be made for. -/
def queueLimit : Nat := 2305843009213693951

inductive Listening where
  | started (d : Dispatcher)
  /-- Nothing has changed. -/
  | refused (e : Error)
  /-- No queue of this depth or no timer of this period can be made. -/
  | crashed

/-- Whether the queue and the timer that some settings ask for can be made. -/
def canRun (c : Config) : Bool :=
  0 < c.queueDepth.toNat && c.queueDepth.toNat ≤ queueLimit && 0 < c.tickIntervalMs.toNat

/-- Bind the socket and start. Port 0 stands for `free`, a port that nobody holds; `held` says
whether somebody holds the port. -/
def listen (d : Dispatcher) (net : Network) (port free : UInt16) (held : Bool) : Listening :=
  if d.phase ≠ .idle then .refused .alreadyListening
  else
    let address := Address.mk d.config.bindIp (if port = 0 then free else port)
    if !net.binds address then .refused (.bind port Network.notLocal)
    else if held then .refused (.bind port Network.addressInUse)
    else if !canRun d.config then .crashed
    else .started { d with phase := .running, socket := some address }

def stop (d : Dispatcher) : Dispatcher := { d with phase := .stopped, socket := none }

/-- What a dispatcher routes with while its socket is bound to `bound`. -/
def router (d : Dispatcher) (bound : Address) : Router :=
  ⟨bound.ip, d.responder, d.config.profiles, d.config.srtpPolicy⟩

/-- What is read of a datagram: it is cut to the size of the buffer. -/
def packet (c : Config) (source : Address) (datagram : Bytes) : Packet :=
  ⟨source, datagram.take c.recvBufferSize.toNat⟩

/-- A datagram arrives from a peer. -/
def receive (d : Dispatcher) (net : Network) (now : Time) (source : Address) (datagram : Bytes) :
    Dispatcher × List Effect :=
  match d.socket with
  | none => (d, [])
  | some bound =>
    let (registry, effects) :=
      (d.router bound).route net d.registry now (packet d.config source datagram)
    ({ d with registry }, effects)

/-- Where a record for a peer goes: from the socket to the address registered for the peer. -/
def target (d : Dispatcher) (id : AssociationId) (record : Bytes) :
    Except Error (Address × Address) :=
  let found := PacketClass.of record
  if found ≠ .dtls then .error (.notDtls found)
  else
    match d.registry.addressOf? id with
    | none => .error (.unknownClient id)
    | some address =>
      match d.socket with
      | none => .error .notListening
      | some bound => .ok (bound, address)

/-- Why a record does not reach its peer. -/
def unsent : Error := .network Network.unreachable

def send (d : Dispatcher) (net : Network) (id : AssociationId) (record : Bytes) :
    Except Error Write := do
  let (bound, address) ← d.target id record
  let w := net.write bound.ip address record
  if w.sent then return w else throw unsent

/-- Send a DTLS record to a peer and store the keys negotiated with it. The keys are stored before
the record is sent. -/
def sendWithKeys (d : Dispatcher) (net : Network) (id : AssociationId) (record : Bytes)
    (keys : Srtp.Negotiated) : Dispatcher × Except Error Write :=
  match d.target id record with
  | .error e => (d, .error e)
  | .ok (bound, address) =>
    match d.registry.setKeys? id keys with
    | none => (d, .error (.unknownClient id))
    | some registry =>
      let w := net.write bound.ip address record
      ({ d with registry }, if w.sent then .ok w else .error unsent)

/-- A round of maintenance: peers that have been silent for `maxIdle` are forgotten. -/
def tick (d : Dispatcher) (maxIdle : Option Span) (now : Time) : Dispatcher :=
  match maxIdle with
  | none => d
  | some maxIdle => { d with registry := d.registry.prune maxIdle now }

/-- A description of a dispatcher, `socketText` telling how its address is written. -/
def describe (d : Dispatcher) (socketText : Address → String) : String :=
  let address :=
    match d.socket with
    | none => "None"
    | some a => "Some(" ++ socketText a ++ ")"
  "MediaDispatcher \x7b state: " ++ d.phase.describe ++ ", local_addr: " ++ address ++
    s!", associations: {d.registry.size}" ++ " \x7d"

end Dispatcher

end MediaSocket
