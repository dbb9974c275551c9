import MediaSocket.Gateway.Conversation
import MediaSocket.Proofs.Config.Validation
import MediaSocket.Proofs.Dispatcher.Routing
import MediaSocket.Proofs.Dispatcher.Send
import MediaSocket.Proofs.Relay.Sessions

/-! What a gateway does about one datagram, of a peer or of the key server, while its dispatcher listens
and forgets nobody and its relay is running. -/

namespace MediaSocket.Gateway

variable {net : Network} {g : Gateway} {bound a : Address} {id : AssociationId} {now : Time}
  {source : Address} {datagram : Bytes}

theorem class_take_of_pos {n : Nat} (h : 0 < n) (datagram : Bytes) :
    PacketClass.of (datagram.take n) = PacketClass.of datagram := by
  cases n with
  | zero => omega
  | succ n => cases datagram <;> rfl

/-- A dispatcher that listens and forgets nobody, and a running relay within reach of its server that
hands replies to the dispatcher. -/
structure Ready (net : Network) (bound : Address) (g : Gateway) : Prop where
  listening : g.dispatcher.socket = some bound
  lasting : g.dispatcher.config.idleTimeout = none
  buffer : 0 < g.limit
  sound : g.dispatcher.registry.Sound
  attached : g.relay.attached = true
  running : g.relay.closed = false
  reaches : g.relay.Reaches net
  numbered : g.relay.Numbered

/-- The gateway after a datagram from `source` has been registered. -/
def seen (g : Gateway) (source : Address) (now : Time) : Gateway :=
  { g with
    dispatcher := { g.dispatcher with registry := g.dispatcher.registry.register source now } }

/-- A dispatcher that listens, whatever has been registered, and a relay to a server within reach,
whatever has been asked of it but to stop. -/
theorem ready_of_reached {d : Dispatcher} {width : IdWidth} {changes : List Registry.Change}
    {servers : List Address} {r : Relay} {requests : List Relay.Request}
    (valid : d.config.validate = .ok ()) (lasting : d.config.idleTimeout = none)
    (listening : d.socket = some bound)
    (registry : d.registry = (Registry.empty width).changeAll changes)
    (connected : Relay.connect servers = .ok r) (reaches : r.Reaches net)
    (running : .stop ∉ requests) :
    Ready net bound ⟨d, (r.serveAll net requests).attach true⟩ := by
  have hkept := Relay.kept_serveAll connected reaches requests
  have hbuffer := (Config.validate_eq_ok_iff.1 valid).recvBufferSize.1
  have hnumbered := Relay.numbered_serveAll connected net requests
  refine ⟨listening, lasting, ?_, ?_, rfl, ?_, ?_, ?_⟩
  · show 0 < d.config.recvBufferSize.toNat
    omega
  · show d.registry.Sound
    rw [registry]
    exact Registry.sound_changeAll width changes
  · exact Bool.eq_false_iff.2 (mt hkept.closed_iff.1 running)
  · exact ⟨hkept.reaches.binds, hkept.reaches.connects⟩
  · exact ⟨hnumbered.below, hnumbered.distinct⟩

/-! ### What an event does -/

theorem Ready.seen (ready : g.Ready net bound) (source : Address) (now : Time) :
    (g.seen source now).Ready net bound where
  listening := ready.listening
  lasting := ready.lasting
  buffer := ready.buffer
  sound := ready.sound.change (.register source now)
  attached := ready.attached
  running := ready.running
  reaches := ready.reaches
  numbered := ready.numbered

theorem Ready.joined (ready : g.Ready net bound) {socket opened : Nat}
    (joins : g.relay.Joins id socket opened) (now : Time) :
    Ready net bound { g with relay := g.relay.joined id socket opened now } where
  listening := ready.listening
  lasting := ready.lasting
  buffer := ready.buffer
  sound := ready.sound
  attached := ready.attached
  running := ready.running
  reaches := ⟨ready.reaches.binds, ready.reaches.connects⟩
  numbered := ready.numbered.joined joins now

theorem Ready.maintained (ready : g.Ready net bound) (now : Time) : (g.tick now).reap now = g := by
  have hlasting := ready.lasting
  rw [reap, tick]
  simp only [Dispatcher.tick, hlasting]

theorem Ready.receive_dispatcher (ready : g.Ready net bound) (now : Time) (source : Address)
    (datagram : Bytes) :
    ∃ effects, g.dispatcher.receive net now source datagram =
        ((g.seen source now).dispatcher, effects) ∧
      Router.Emits (g.dispatcher.router bound) net (g.seen source now).dispatcher.registry
        (g.dispatcher.registry.resolve source) ⟨source, datagram.take g.limit⟩ effects := by
  refine ⟨_, ?_, Router.route_emits (g.dispatcher.router bound) net g.dispatcher.registry now
    ⟨source, datagram.take g.limit⟩⟩
  rw [Dispatcher.receive]
  split
  · rename_i hclosed
    exact nomatch ready.listening.symm.trans hclosed
  · rename_i bound' hopen
    obtain rfl : bound = bound' := Option.some.inj (ready.listening.symm.trans hopen)
    rfl

theorem performAll_writes (net : Network) (now : Time) (r : Relay) (writes : List Write) :
    performAll net now r (writes.map .write) = (r, writes.map .peer) := by
  induction writes with
  | nil => rfl
  | cons w writes ih =>
    rw [List.map_cons, performAll, perform]
    simp only [ih]
    rfl

/-- A DTLS record goes to the key server and does nothing else. -/
theorem Ready.receive_record (ready : g.Ready net bound)
    (dtls : PacketClass.of datagram = .dtls)
    (taken : ∀ call, Effect.tunnel call ∈ (g.dispatcher.receive net now source datagram).2 →
      g.relay.transmits net call.record = true) :
    ∃ socket opened, g.relay.Joins (g.dispatcher.registry.resolve source) socket opened ∧
      g.receive net now source datagram =
        ({ g.seen source now with
            relay := g.relay.joined (g.dispatcher.registry.resolve source) socket opened now },
          [.server ⟨g.dispatcher.registry.resolve source, socket, datagram.take g.limit⟩]) := by
  obtain ⟨effects, hreceive, hemits⟩ := ready.receive_dispatcher now source datagram
  have hclass : PacketClass.of (datagram.take g.limit) = .dtls :=
    (class_take_of_pos ready.buffer datagram).trans dtls
  obtain ⟨call, rfl, hid, hrecord⟩ := hemits.call hclass
  have htaken : g.relay.transmits net call.record = true := by
    apply taken
    rw [hreceive]
    exact List.mem_singleton.2 rfl
  obtain ⟨socket, opened, hjoins, hcarry⟩ :=
    Relay.carry_of_taken ready.reaches ready.running htaken now
  rw [hid] at hjoins hcarry
  rw [hrecord] at hcarry
  refine ⟨socket, opened, hjoins, ?_⟩
  rw [receive, hreceive]
  simp only [performAll, perform, hcarry]
  rfl

/-- No other datagram gets to the relay. -/
theorem Ready.receive_other (ready : g.Ready net bound)
    (other : PacketClass.of datagram ≠ .dtls) (now : Time) (source : Address) :
    ∃ writes : List Write,
      g.receive net now source datagram = (g.seen source now, writes.map .peer) := by
  obtain ⟨effects, hreceive, hemits⟩ := ready.receive_dispatcher now source datagram
  have hclass : PacketClass.of (datagram.take g.limit) ≠ .dtls :=
    (class_take_of_pos ready.buffer datagram).symm ▸ other
  obtain ⟨writes, rfl⟩ := hemits.writes hclass
  refine ⟨writes, ?_⟩
  rw [receive, hreceive]
  simp only [performAll_writes]
  rfl

/-- An answer on the socket of a session goes to the peer of the session, if it is a DTLS record. -/
theorem Ready.reply_eq (ready : g.Ready net bound) {s : Session}
    (session : g.relay.sessions.get? id = some s)
    (registered : g.dispatcher.registry.addressOf? id = some a)
    (taken : ∀ bound address,
      g.dispatcher.target id (datagram.take 2048) = .ok (bound, address) →
        net.sends bound.ip address (datagram.take 2048) = true) :
    g.reply net s.socket datagram =
      if PacketClass.of datagram = .dtls then [.peer ⟨a, datagram.take 2048, true⟩]
      else [] := by
  have hclass : PacketClass.of (datagram.take 2048) = PacketClass.of datagram :=
    class_take_of_pos (by decide) datagram
  rw [reply, ready.numbered.reply?_eq ready.attached session]
  dsimp only
  by_cases hdtls : PacketClass.of datagram = .dtls
  · have haddressed : Dispatcher.Addressed g.dispatcher id (datagram.take 2048) bound a :=
      ⟨hclass.trans hdtls, registered, ready.listening⟩
    rw [if_pos hdtls, haddressed.send_eq, if_pos (taken bound a haddressed.target_eq)]
  · have hrefused : Dispatcher.Refused g.dispatcher id (datagram.take 2048) _ :=
      .notDtls (hclass.symm ▸ hdtls)
    rw [if_neg hdtls, hrefused.send_eq]

end MediaSocket.Gateway
