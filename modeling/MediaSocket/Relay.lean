import MediaSocket.Address.Lookup
import MediaSocket.Error
import MediaSocket.Network
import MediaSocket.Table
import MediaSocket.Time
import MediaSocket.Tunnel

/-!
The relay to the key server. Every association has a socket of its own towards the server, so that
a reply belongs to the association whose socket it comes in on. A session lasts from the first
record of an association until it is closed, has been idle for too long, or the relay is stopped.
-/

namespace MediaSocket

/-- The open socket of an association. Sockets are numbered in the order in which they are
opened. -/
structure Session where
  socket : Nat
  /-- When a record was last sent. -/
  lastSent : Time
  deriving DecidableEq, Repr

structure Relay where
  server : Address
  sessions : Table AssociationId Session
  keys : Table AssociationId Srtp.Keys
  /-- Whether replies are handed on. -/
  attached : Bool
  closed : Bool
  /-- How many sockets have been opened. -/
  opened : Nat

/-- A record on its way to the key server. -/
structure Relayed where
  id : AssociationId
  socket : Nat
  record : Bytes
  deriving DecidableEq, Repr

namespace Relay

def connect : List Address → Except Error Relay
  | [] => .error (.config "key server address did not resolve")
  | server :: _ => .ok ⟨server, .empty, .empty, false, false, 0⟩

def connectTo (text : String) : Except Error Relay :=
  match Address.lookup text with
  | .error e => .error (.network e.message)
  | .ok server => connect [server]

def describe (r : Relay) : String := s!"UdpForwarder({r.server.text})"

def sessionCount (r : Relay) : Nat := r.sessions.size

def keysOf? (r : Relay) (id : AssociationId) : Option Srtp.Keys := r.keys.get? id

/-! ### Steps that no other call can come between -/

/-- Where the sockets of sessions are bound: any port of every local host of the server's
family. -/
def localAddress (r : Relay) : Address :=
  if r.server.isIpv4 then .v4 .unspecified 0 else .v6 .unspecified 0 0 0

/-- The relay with an open session for an association that sends now, and the socket of it. -/
def openSession (r : Relay) (net : Network) (id : AssociationId) (now : Time) :
    Except Error (Relay × Nat) :=
  match r.sessions.get? id with
  | some s => .ok ({ r with sessions := r.sessions.insert id { s with lastSent := now } }, s.socket)
  | none =>
    if net.binds r.localAddress && net.connects r.server then
      .ok ({ r with sessions := r.sessions.insert id ⟨r.opened, now⟩, opened := r.opened + 1 },
        r.opened)
    else .error (.network Network.unreachable)

/-- The network lets the relay bind a socket and connect it to the server. -/
structure Reaches (r : Relay) (net : Network) : Prop where
  binds : net.binds r.localAddress = true
  connects : net.connects r.server = true

/-- Whether the network takes a record for the server. -/
def transmits (r : Relay) (net : Network) (record : Bytes) : Bool :=
  net.sends r.localAddress.ip r.server record

def forgetKeys (r : Relay) (id : AssociationId) : Relay := { r with keys := r.keys.erase id }

def dropSession (r : Relay) (id : AssociationId) : Relay :=
  { r with sessions := r.sessions.erase id }

def isIdle (maxIdle : Span) (now : Time) (s : Session) : Bool := maxIdle ≤ now - s.lastSent

/-- The associations whose sessions have been idle for `maxIdle`. -/
def idleIds (r : Relay) (maxIdle : Span) (now : Time) : List AssociationId :=
  (r.sessions.filter fun e => isIdle maxIdle now e.2).keys

/-- The relay without the sessions that have been idle for `maxIdle`. -/
def dropIdle (r : Relay) (maxIdle : Span) (now : Time) : Relay :=
  { r with sessions := r.sessions.filter fun e => !isIdle maxIdle now e.2 }

def close (r : Relay) : Relay := { r with closed := true }

def dropSessions (r : Relay) : Relay := { r with sessions := .empty }

def attach (r : Relay) (attached : Bool) : Relay := { r with attached }

/-! ### Calls -/

/-- Why a closed relay takes no record. -/
def stopped : Error := .tunnel "forwarder stopped"

/-- Send a record of an association to the server. The session stays open even if the network does
not take the record. -/
def send (r : Relay) (net : Network) (id : AssociationId) (record : Bytes) (now : Time) :
    Relay × Except Error Relayed :=
  if r.closed then (r, .error stopped)
  else
    match r.openSession net id now with
    | .error e => (r, .error e)
    | .ok (r', socket) =>
      if r'.transmits net record then (r', .ok ⟨id, socket, record⟩)
      else (r', .error (.network Network.unreachable))

/-- What the tunnel is asked to carry, sent to the server. The profiles on offer stay here. -/
def carry (r : Relay) (net : Network) (call : TunnelCall) (now : Time) :
    Relay × Except Error Relayed :=
  r.send net call.id call.record now

def setKeys (r : Relay) (id : AssociationId) (keys : Srtp.Keys) : Relay :=
  { r with keys := r.keys.insert id keys }

/-- Close the session of an association and forget its keys; whether there was a session. -/
def closeSession (r : Relay) (id : AssociationId) : Relay × Bool :=
  ((r.forgetKeys id).dropSession id, r.sessions.contains id)

/-- Close the sessions that have been idle for `maxIdle` and forget their keys; how many there
were. -/
def closeIdle (r : Relay) (maxIdle : Span) (now : Time) : Relay × Nat :=
  let ids := r.idleIds maxIdle now
  (ids.foldl forgetKeys (r.dropIdle maxIdle now), ids.length)

/-- Close the relay and every session. Only the first call does anything. -/
def stop (r : Relay) : Relay :=
  if r.closed then r else (r.close.dropSessions).attach false

/-- The number of bytes kept of a reply. -/
def replyLimit : Nat := 2048

/-- Whom a reply on a socket is for, and what is kept of it. A socket without a session is closed,
and replies that nobody waits for are dropped. -/
def reply? (r : Relay) (socket : Nat) (datagram : Bytes) : Option (AssociationId × Bytes) :=
  if r.attached then
    (r.sessions.entries.find? fun e => e.2.socket == socket).map fun e =>
      (e.1, datagram.take replyLimit)
  else none

end Relay

end MediaSocket
