import MediaSocket.Dispatcher.Routing
import MediaSocket.Proofs.Srtp.FanOut

/-! A datagram does only what its class allows, and leaves nothing behind but the sighting of its source.
So what comes of it depends on the datagrams before it by their sources and times alone. -/

namespace MediaSocket.Router

variable {router : Router} {r : Registry} {o : Occasion}

/-- A record long enough to have a handshake message in it, of the type of a ClientHello. -/
structure IsClientHello (record : Bytes) : Prop where
  length : 14 ≤ record.length
  handshake : record[0]? = some 0x16
  hello : record[13]? = some 0x01

/-- What may come of a datagram from a peer with the id `id`, `r` being the registry with the peer. -/
inductive Emits (router : Router) (net : Network) (r : Registry) (id : AssociationId) (p : Packet) :
    List Effect → Prop
  | reply {reply : Bytes} (stun : PacketClass.of p.payload = .stun)
      (h : router.responder.handle p.payload p.source = .ok (some reply)) :
      Emits router net r id p
        [.write ⟨p.source, reply, net.sends router.bound p.source reply⟩]
  | noReply (stun : PacketClass.of p.payload = .stun)
      (h : ∀ reply, router.responder.handle p.payload p.source ≠ .ok (some reply)) :
      Emits router net r id p []
  | hello (dtls : PacketClass.of p.payload = .dtls) (h : IsClientHello p.payload) :
      Emits router net r id p [.tunnel (.sendWithProfiles id p.payload router.offer)]
  | record (dtls : PacketClass.of p.payload = .dtls) (h : ¬IsClientHello p.payload) :
      Emits router net r id p [.tunnel (.send id p.payload)]
  | media {writes : List Write} (srtp : PacketClass.of p.payload = .srtp)
      (copies : ∀ w ∈ writes, w.payload = p.payload ∧
        w.sent = net.sends router.bound w.target p.payload)
      (known : ∀ w ∈ writes, ∃ x, r.addressOf? x = some w.target) :
      Emits router net r id p (writes.map .write)
  | dropped (unknown : PacketClass.of p.payload = .unknown) : Emits router net r id p []

/-! ### One datagram -/

theorem isClientHello_iff {record : Bytes} : isClientHello record = true ↔ IsClientHello record := by
  rw [isClientHello, Bool.and_eq_true, beq_iff_eq, beq_iff_eq]
  constructor
  · rintro ⟨hfirst, hmessage⟩
    obtain ⟨hlength, -⟩ := List.getElem?_eq_some_iff.1 hmessage
    exact ⟨hlength, hfirst, hmessage⟩
  · rintro ⟨-, hfirst, hmessage⟩
    exact ⟨hfirst, hmessage⟩

theorem handleStun_effects (router : Router) (o : Occasion) :
    (router.handleStun o).effects = router.answer o.net o.packet := by
  rw [handleStun, answer]
  cases router.responder.handle o.packet.payload o.packet.source with
  | error e => rfl
  | ok reply => cases reply <;> rfl

theorem handleSrtp_effects (router : Router) (r : Registry) (id : AssociationId) (o : Occasion) :
    (router.handleSrtp r id o).effects = router.forward o.net r id o.packet.payload := by
  rw [handleSrtp, forward_eq]
  rcases router.policy.forward o.net router.bound r id o.packet.payload with ⟨result, writes⟩
  cases result <;> rfl

/-- Routing does the same whether or not what goes wrong is noted. -/
theorem route_eq_handle (router : Router) (r : Registry) (o : Occasion) :
    router.route o.net r o.now o.packet = ((router.handle r o).1, (router.handle r o).2.effects) := by
  rw [route, handle]
  cases PacketClass.of o.packet.payload with
  | stun => simp only [handleStun_effects]
  | dtls => rfl
  | srtp => simp only [handleSrtp_effects]
  | unknown => rfl

theorem handle_fst (router : Router) (r : Registry) (o : Occasion) :
    (router.handle r o).1 = r.change o.sighting := rfl

theorem answer_emits (router : Router) (net : Network) (r : Registry) (id : AssociationId)
    {p : Packet} (stun : PacketClass.of p.payload = .stun) :
    Emits router net r id p (router.answer net p) := by
  rw [answer]
  split
  · rename_i reply hreply
    exact .reply stun hreply
  · rename_i hnone
    exact .noReply stun hnone

theorem call_emits (router : Router) (net : Network) (r : Registry) (id : AssociationId)
    {p : Packet} (dtls : PacketClass.of p.payload = .dtls) :
    Emits router net r id p [.tunnel (.of router.offer id p.payload)] := by
  rw [TunnelCall.of]
  split
  · rename_i hhello
    exact .hello dtls (isClientHello_iff.1 hhello)
  · rename_i hother
    exact .record dtls (mt isClientHello_iff.2 hother)

theorem forward_emits (router : Router) (net : Network) (r : Registry) (id : AssociationId)
    {p : Packet} (srtp : PacketClass.of p.payload = .srtp) :
    Emits router net r id p (router.forward net r id p.payload) := by
  rw [forward_eq]
  cases htargets : router.policy.targets? r id with
  | none =>
    rw [Srtp.Policy.forward_of_no_targets htargets]
    exact .media srtp nofun nofun
  | some targets =>
    rw [Srtp.Policy.forward_of_targets htargets]
    refine .media srtp ?_ ?_
    · intro w hw
      obtain ⟨a, -, rfl⟩ := List.mem_map.1 hw
      exact ⟨rfl, rfl⟩
    · intro w hw
      obtain ⟨a, ha, rfl⟩ := List.mem_map.1 hw
      exact Srtp.Policy.registered_of_targets htargets ha

theorem route_emits (router : Router) (net : Network) (r : Registry) (now : Time) (p : Packet) :
    Emits router net (r.register p.source now) (r.resolve p.source) p
      (router.route net r now p).2 := by
  rw [route]
  cases hclass : PacketClass.of p.payload with
  | stun => exact answer_emits router net _ _ hclass
  | dtls => exact call_emits router net _ _ hclass
  | srtp => exact forward_emits router net _ _ hclass
  | unknown => exact .dropped hclass

theorem Emits.call {net : Network} {id : AssociationId} {p : Packet} {effects : List Effect}
    (h : Emits router net r id p effects) (dtls : PacketClass.of p.payload = .dtls) :
    ∃ call, effects = [.tunnel call] ∧ call.id = id ∧ call.record = p.payload := by
  cases h with
  | hello => exact ⟨_, rfl, rfl, rfl⟩
  | record => exact ⟨_, rfl, rfl, rfl⟩
  | reply stun => exact nomatch dtls.symm.trans stun
  | noReply stun => exact nomatch dtls.symm.trans stun
  | media srtp => exact nomatch dtls.symm.trans srtp
  | dropped unknown => exact nomatch dtls.symm.trans unknown

theorem Emits.writes {net : Network} {id : AssociationId} {p : Packet} {effects : List Effect}
    (h : Emits router net r id p effects) (other : PacketClass.of p.payload ≠ .dtls) :
    ∃ writes : List Write, effects = writes.map .write := by
  cases h with
  | hello dtls => exact absurd dtls other
  | record dtls => exact absurd dtls other
  | reply => exact ⟨[_], rfl⟩
  | noReply => exact ⟨[], rfl⟩
  | media => exact ⟨_, rfl⟩
  | dropped => exact ⟨[], rfl⟩

/-! ### Many datagrams -/

/-- A run leaves behind the sightings of all sources, and nothing else. -/
theorem handleAll_fst (router : Router) (r : Registry) (os : List Occasion) :
    (router.handleAll r os).1 = r.changeAll (os.map Occasion.sighting) := by
  induction os generalizing r with
  | nil => rfl
  | cons o rest ih =>
    show (router.handleAll (router.handle r o).1 rest).1 = _
    rw [ih, handle_fst]
    rfl

theorem handleAll_cons (router : Router) (r : Registry) (o : Occasion) (os : List Occasion) :
    (router.handleAll r (o :: os)).2 =
      (router.handle r o).2.effects ++ (router.handleAll (r.change o.sighting) os).2 := rfl

theorem handleAll_append (router : Router) (r : Registry) (front back : List Occasion) :
    (router.handleAll r (front ++ back)).2 =
      (router.handleAll r front).2 ++
        (router.handleAll (r.changeAll (front.map Occasion.sighting)) back).2 := by
  induction front generalizing r with
  | nil => rfl
  | cons o front ih =>
    rw [List.cons_append, handleAll_cons, handleAll_cons, ih, List.append_assoc]
    rfl

/-- A datagram is registered and nothing else happens to the registry: no keys, no stored address and
no other entry are touched. What comes of it is what its class allows, even if the tunnel or the network
fails. What comes of a sequence is what comes of one datagram after the other; what comes before one
datagram matters by its sources and times, not by what it was or what went wrong. -/
theorem route_affects_own_class (router : Router) (r : Registry) :
    (∀ o : Occasion,
      let r' := (router.handle r o).1
      let effects := (router.handle r o).2.effects
      let id := r.resolve o.packet.source
      router.route o.net r o.now o.packet = (r', effects) ∧
        r' = r.register o.packet.source o.now ∧
        (∀ x, r'.keysOf? x = r.keysOf? x) ∧
        (∀ x a, r.addressOf? x = some a → r'.addressOf? x = some a) ∧
        (∀ x, x ≠ id → r'.get? x = r.get? x) ∧
        Emits router o.net r' id o.packet effects) ∧
    (∀ front o back,
      let before := r.changeAll (front.map Occasion.sighting)
      (router.handleAll r (front ++ o :: back)).2 =
        (router.handleAll r front).2 ++ (router.route o.net before o.now o.packet).2 ++
          (router.handleAll (before.register o.packet.source o.now) back).2) ∧
    (∀ os, (router.handleAll r os).1 = r.changeAll (os.map Occasion.sighting)) ∧
    ∀ front front' back, front.map Occasion.sighting = front'.map Occasion.sighting →
      ∃ effects, (router.handleAll r (front ++ back)).2 = (router.handleAll r front).2 ++ effects ∧
        (router.handleAll r (front' ++ back)).2 = (router.handleAll r front').2 ++ effects := by
  refine ⟨?_, ?_, handleAll_fst router r, ?_⟩
  · intro o r' effects id
    have hroute : router.route o.net r o.now o.packet = (r', effects) := route_eq_handle router r o
    have hemits := route_emits router o.net r o.now o.packet
    rw [hroute] at hemits
    exact ⟨hroute, rfl, Registry.keysOf?_register r _ _,
      fun x a ha => Registry.addressOf?_register_of_known ha _ _,
      fun x hx => Registry.get?_register_of_ne hx _, hemits⟩
  · intro front o back before
    rw [handleAll_append, handleAll_cons, ← List.append_assoc, route_eq_handle]
    rfl
  · intro front front' back hsame
    exact ⟨_, handleAll_append router r front back, hsame ▸ handleAll_append router r front' back⟩

end MediaSocket.Router
