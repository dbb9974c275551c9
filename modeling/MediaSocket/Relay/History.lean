import MediaSocket.History
import MediaSocket.Relay.Request

/-! What the calls of a relay so far say about the session of an association, without the relay. -/

namespace MediaSocket.Relay

section

variable (id : AssociationId)

/-- Whether a request is to relay a record of the association. -/
def Carries : Request → Prop
  | .carry call _ => call.id = id
  | _ => False

/-- When a request is to relay a record of the association. -/
def Request.carried? : Request → Option Time
  | .carry call now => if call.id = id then some now else none
  | _ => none

/-- Whether a request closes the session that the association may have. -/
def Closes (before : List Request) : Request → Prop
  | .closeSession x => x = id
  | .closeIdle maxIdle now =>
    ∃ sent, latest? (Request.carried? id) before = some sent ∧ maxIdle ≤ now - sent
  | _ => False

/-- A record of the association was to be relayed, its session has not been closed after that, and
the relay has not been stopped. -/
def HasSession (requests : List Request) : Prop :=
  .stop ∉ requests ∧ Lasts (Carries id) (Closes id) requests

/-- The association has a session, and has relayed nothing for `maxIdle`. -/
def HasIdleSession (requests : List Request) (maxIdle : Span) (now : Time) : Prop :=
  HasSession id requests ∧
    ∃ sent, latest? (Request.carried? id) requests = some sent ∧ maxIdle ≤ now - sent

end

/-- A relay has the sessions that the requests say, one for each association, and no others. -/
structure Serves (requests : List Request) (r : Relay) : Prop where
  nodup : r.sessions.keys.Nodup
  contains_iff : ∀ id, r.sessions.contains id = true ↔ HasSession id requests
  lastSent : ∀ id s, r.sessions.get? id = some s →
    latest? (Request.carried? id) requests = some s.lastSent
  closed_iff : r.closed = true ↔ .stop ∈ requests

end MediaSocket.Relay
