import MediaSocket.Relay

/-! Calls of a relay, each completed before the next begins. -/

namespace MediaSocket.Relay

inductive Request where
  | carry (call : TunnelCall) (now : Time)
  | setKeys (id : AssociationId) (keys : Srtp.Keys)
  | closeSession (id : AssociationId)
  | closeIdle (maxIdle : Span) (now : Time)
  | stop
  deriving DecidableEq, Repr

def Request.time? : Request → Option Time
  | .carry _ now | .closeIdle _ now => some now
  | _ => none

/-- Whether time never goes back from one call to the next. -/
def Chronological (requests : List Request) : Prop :=
  (requests.filterMap Request.time?).Pairwise (· ≤ ·)

def serve (r : Relay) (net : Network) : Request → Relay
  | .carry call now => (r.carry net call now).1
  | .setKeys id keys => r.setKeys id keys
  | .closeSession id => (r.closeSession id).1
  | .closeIdle maxIdle now => (r.closeIdle maxIdle now).1
  | .stop => r.stop

def serveAll (r : Relay) (net : Network) (requests : List Request) : Relay :=
  requests.foldl (fun r q => r.serve net q) r

end MediaSocket.Relay
