import MediaSocket.Dispatcher

/-! Calls of a dispatcher, datagrams of its peers and rounds of maintenance, each handled before the
next. -/

namespace MediaSocket.Dispatcher

/-- A call of a dispatcher, or a datagram that arrives. -/
inductive Request where
  | listen (port free : UInt16) (held : Bool)
  | stop
  | send (id : AssociationId) (record : Bytes)
  | sendWithKeys (id : AssociationId) (record : Bytes) (keys : Srtp.Negotiated)
  | receive (source : Address) (datagram : Bytes) (now : Time)
  deriving DecidableEq, Repr

def Listening.dispatcher (before : Dispatcher) : Listening → Dispatcher
  | .started d => d
  | .refused _ | .crashed => before

def serve (d : Dispatcher) (net : Network) : Request → Dispatcher
  | .listen port free held => (d.listen net port free held).dispatcher d
  | .stop => d.stop
  | .send .. => d
  | .sendWithKeys id record keys => (d.sendWithKeys net id record keys).1
  | .receive source datagram now => (d.receive net now source datagram).1

def serveAll (d : Dispatcher) (net : Network) (requests : List Request) : Dispatcher :=
  requests.foldl (fun d q => d.serve net q) d

/-- A request with the network that it meets, or a round of maintenance. -/
inductive Turn where
  | request (net : Network) (q : Request)
  | maintenance (maxIdle : Option Span) (now : Time)

/-- The dispatcher after a turn. Maintenance is made only while a dispatcher runs. -/
def take (d : Dispatcher) : Turn → Dispatcher
  | .request net q => d.serve net q
  | .maintenance maxIdle now => if d.phase = .running then d.tick maxIdle now else d

def takeAll (d : Dispatcher) (turns : List Turn) : Dispatcher := turns.foldl take d

end MediaSocket.Dispatcher
