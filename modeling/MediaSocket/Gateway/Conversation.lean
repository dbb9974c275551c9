import MediaSocket.Gateway
import MediaSocket.History

/-!
A gateway between its peers and a key server that answers the records it gets, each answer going to
the socket that the record came from. Whatever happens is handled before the next thing happens.
-/

namespace MediaSocket.Gateway

inductive Event where
  | peer (now : Time) (source : Address) (datagram : Bytes)
  /-- The key server answers the record with this number. -/
  | server (number : Nat) (datagram : Bytes)
  /-- A round of maintenance, of the dispatcher and of the relay. -/
  | maintenance (now : Time)
  deriving DecidableEq, Repr

def Output.record? : Output → Option Relayed
  | .server sent => some sent
  | .peer _ => none

def Output.write? : Output → Option Write
  | .server _ => none
  | .peer w => some w

structure Conversation where
  gateway : Gateway
  /-- The records that have reached the key server, in order. Their numbers are their places. -/
  records : List Relayed
  /-- What has gone to peers because of an answer, with the number of the record it answers. -/
  answered : List (Nat × Write)

namespace Conversation

def fresh (g : Gateway) : Conversation := ⟨g, [], []⟩

def step (net : Network) (s : Conversation) : Event → Conversation
  | .peer now source datagram =>
    let (gateway, outputs) := s.gateway.receive net now source datagram
    { s with gateway, records := s.records ++ outputs.filterMap Output.record? }
  | .server number datagram =>
    match s.records[number]? with
    | none => s
    | some record =>
      let outputs := s.gateway.reply net record.socket datagram
      { s with
        answered := s.answered ++ (outputs.filterMap Output.write?).map fun w => (number, w) }
  | .maintenance now => { s with gateway := (s.gateway.tick now).reap now }

def run (net : Network) (s : Conversation) (events : List Event) : Conversation :=
  events.foldl (step net) s

/-- The network takes whatever has to be written for the relay because of an event, and the key
server answers only what it has got. -/
def Proper (net : Network) (s : Conversation) : Event → Prop
  | .peer now source datagram =>
    ∀ call, Effect.tunnel call ∈ (s.gateway.dispatcher.receive net now source datagram).2 →
      s.gateway.relay.transmits net call.record = true
  | .server number datagram =>
    ∃ record, s.records[number]? = some record ∧ ∀ bound address,
      s.gateway.dispatcher.target record.id (datagram.take 2048) =
          .ok (bound, address) →
        net.sends bound.ip address (datagram.take 2048) = true
  | .maintenance _ => True

/-- Every event is proper when it happens. -/
def Proceeds (net : Network) (s : Conversation) (events : List Event) : Prop :=
  Always (fun front e => (s.run net front).Proper net e) events

end Conversation

/-! What a conversation should come to, by its events alone. -/

/-- The number of bytes kept of a datagram. -/
def limit (g : Gateway) : Nat := g.dispatcher.config.recvBufferSize.toNat

/-- The DTLS records among some events, cut to `limit` bytes, with their sources. -/
def Event.sent? (limit : Nat) : Event → Option (Address × Bytes)
  | .peer _ source datagram =>
    if PacketClass.of datagram = .dtls then some (source, datagram.take limit) else none
  | _ => none

/-- An answer that is for a peer, cut to 2048 bytes, with the number of the record. -/
def Event.answer? : Event → Option (Nat × Bytes)
  | .server number datagram =>
    if PacketClass.of datagram = .dtls then some (number, datagram.take 2048) else none
  | _ => none

/-- The number of the record that the key server answers. -/
def Event.number? : Event → Option Nat
  | .server number _ => some number
  | _ => none

/-- The key server answers no record before it has got it. -/
def Answerable (limit : Nat) (events : List Event) : Prop :=
  Always (fun front e => ∀ number ∈ e.number?,
    number < (front.filterMap (Event.sent? limit)).length) events

/-- The key server is done with one record before it gets the next. -/
def Prompt (limit : Nat) (events : List Event) : Prop :=
  Always (fun front e => ∀ number ∈ e.number?,
    number + 1 = (front.filterMap (Event.sent? limit)).length) events

/-- The address is registered at the beginning, or the source of a datagram. -/
def IsPeer (g : Gateway) (events : List Event) (a : Address) : Prop :=
  (∃ id, g.dispatcher.registry.addressOf? id = some a) ∨
    ∃ now datagram, .peer now a datagram ∈ events

end MediaSocket.Gateway
