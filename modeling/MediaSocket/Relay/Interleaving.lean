import MediaSocket.Relay
import Mathlib.Logic.Relation

/-!
Calls of a relay at the same time. A call is a row of steps, and any steps of other calls may come
between two of them, because the flag, the sessions and the keys are guarded one by one.
-/

namespace MediaSocket.Relay

/-- A call under way, named for what it does next. -/
inductive Call where
  /-- `send` looks whether the relay is closed. -/
  | look (id : AssociationId) (record : Bytes)
  /-- `send` finds or opens the session. -/
  | join (id : AssociationId) (record : Bytes)
  /-- `send` writes to the socket of the session, which stays usable after the session. -/
  | write (id : AssociationId) (socket : Nat) (record : Bytes)
  | setKeys (id : AssociationId) (keys : Srtp.Keys)
  /-- `closeSession` forgets the keys. -/
  | forget (id : AssociationId)
  /-- `closeSession` drops the session. -/
  | drop (id : AssociationId)
  /-- `closeIdle` drops the sessions that were idle when it began. -/
  | dropIdle (maxIdle : Span) (began : Time)
  /-- `closeIdle` forgets the keys of the sessions that it dropped, one after the other. -/
  | forgetEach (ids : List AssociationId)
  /-- `stop` closes the relay, and is done if it is closed already. -/
  | close
  /-- `stop` drops all sessions. -/
  | dropSessions
  /-- `stop` detaches the relay and returns. -/
  | detach
  deriving DecidableEq, Repr

/-- Whether a call can begin like this at a given time. -/
def Call.Begins (now : Time) : Call → Prop
  | .look .. | .setKeys .. | .forget _ | .close => True
  | .dropIdle _ began => began = now
  | _ => False

/-- Whether a call has found the relay open and has yet to find or open its session. -/
def Call.joins : Call → Bool
  | .join .. => true
  | _ => false

/-- Whether a call has found the relay open and has yet to send its record. -/
def Call.admitted : Call → Bool
  | .join .. | .write .. => true
  | _ => false

/-- Whether a call has closed the relay and has yet to return. -/
def Call.stops : Call → Bool
  | .dropSessions | .detach => true
  | _ => false

/-- Whether a call under way can still forget the keys of an association that it may have. A session
that is opened from now on is never idle for a `closeIdle` that has begun, unless that closes every
session there is. -/
def Call.MayForget (r : Relay) (id : AssociationId) : Call → Prop
  | .forget x => x = id
  | .dropIdle maxIdle began => maxIdle = 0 ∨ id ∈ r.idleIds maxIdle began
  | .forgetEach ids => id ∈ ids
  | _ => False

/-- A step of a call: the relay after it, what is left of the call, and what was sent. -/
def Call.step (net : Network) (now : Time) (r : Relay) :
    Call → Relay × Option Call × List Relayed
  | .look id record => (r, if r.closed then none else some (.join id record), [])
  | .join id record =>
    match r.openSession net id now with
    | .ok (r', socket) => (r', some (.write id socket record), [])
    | .error _ => (r, none, [])
  | .write id socket record =>
    (r, none, if r.transmits net record then [⟨id, socket, record⟩] else [])
  | .setKeys id keys => (r.setKeys id keys, none, [])
  | .forget id => (r.forgetKeys id, some (.drop id), [])
  | .drop id => (r.dropSession id, none, [])
  | .dropIdle maxIdle began =>
    (r.dropIdle maxIdle began, some (.forgetEach (r.idleIds maxIdle began)), [])
  | .forgetEach [] => (r, none, [])
  | .forgetEach (id :: ids) => (r.forgetKeys id, some (.forgetEach ids), [])
  | .close => if r.closed then (r, none, []) else (r.close, some .dropSessions, [])
  | .dropSessions => (r.dropSessions, some .detach, [])
  | .detach => (r.attach false, none, [])

/-- What a call goes on with after a step that does not complete it. -/
inductive Call.Next (r : Relay) : Call → Call → Prop
  | look {id : AssociationId} {record : Bytes} (h : r.closed = false) :
      Next r (.look id record) (.join id record)
  | join {id : AssociationId} {socket : Nat} {record : Bytes} :
      Next r (.join id record) (.write id socket record)
  | forget {id : AssociationId} : Next r (.forget id) (.drop id)
  | dropIdle {maxIdle : Span} {began : Time} :
      Next r (.dropIdle maxIdle began) (.forgetEach (r.idleIds maxIdle began))
  | forgetEach {id : AssociationId} {ids : List AssociationId} :
      Next r (.forgetEach (id :: ids)) (.forgetEach ids)
  | close (h : r.closed = false) : Next r .close .dropSessions
  | dropSessions : Next r .dropSessions .detach

/-- A relay, the calls under way on it, and the records sent so far. -/
structure Shared where
  relay : Relay
  now : Time
  calls : List Call
  sent : List Relayed

namespace Shared

/-- A relay that nobody has called yet. -/
def idle (r : Relay) : Shared := ⟨r, 0, [], []⟩

inductive Event where
  /-- A call begins. -/
  | begin (c : Call)
  /-- A call that is under way takes its next step. -/
  | act (c : Call)
  /-- Time goes by. -/
  | wait (d : Span)
  deriving DecidableEq, Repr

/-- Whether an association is given keys, or a call begins that may forget the keys it has. -/
def Event.Rekeys (id : AssociationId) : Event → Prop
  | .act (.setKeys x _) => x = id
  | .begin (.forget x) => x = id
  | .begin (.dropIdle ..) => True
  | _ => False

/-- One event after which `t` is there instead of `s`. -/
inductive Step (net : Network) : Shared → Event → Shared → Prop
  | begin {s : Shared} {c : Call} (h : c.Begins s.now) :
      Step net s (.begin c) { s with calls := s.calls ++ [c] }
  | act {s : Shared} {front back : List Call} {c : Call} (h : s.calls = front ++ c :: back) :
      Step net s (.act c)
        { s with
          relay := (c.step net s.now s.relay).1
          calls := front ++ (c.step net s.now s.relay).2.1.toList ++ back
          sent := s.sent ++ (c.step net s.now s.relay).2.2 }
  | wait {s : Shared} {d : Span} : Step net s (.wait d) { s with now := s.now + d }

/-- The events lead from one state to the other, in this order. -/
inductive Trace (net : Network) : Shared → List Event → Shared → Prop
  | nil {s : Shared} : Trace net s [] s
  | cons {s t u : Shared} {e : Event} {events : List Event} (step : Step net s e t)
      (rest : Trace net t events u) : Trace net s (e :: events) u

/-- Any number of events leads from `s` to `t`. -/
def Runs (net : Network) : Shared → Shared → Prop :=
  Relation.ReflTransGen fun s t => ∃ e, Step net s e t

/-- The relay has been stopped, and the call that closed it has returned. -/
structure Returned (s : Shared) : Prop where
  closed : s.relay.closed = true
  returned : ∀ c ∈ s.calls, c.stops = false

/-- There is no session, and there never will be one; no socket is opened and nothing is sent any
more. -/
def Final (net : Network) (s : Shared) : Prop :=
  ∀ t, Runs net s t →
    t.relay.sessions = .empty ∧ t.relay.opened = s.relay.opened ∧ t.sent = s.sent

/-- An association has these keys, until it is given others or a call begins that may forget them. -/
def Keeps (net : Network) (id : AssociationId) (keys : Srtp.Keys) (s : Shared) : Prop :=
  ∀ events t, Trace net s events t → (∀ e ∈ events, ¬e.Rekeys id) →
    t.relay.keysOf? id = some keys

end Shared

end MediaSocket.Relay
