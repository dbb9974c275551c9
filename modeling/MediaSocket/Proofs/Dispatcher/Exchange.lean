import MediaSocket.Dispatcher.Exchange
import MediaSocket.Proofs.Stun.Reply

/-! A STUN datagram makes a dispatcher write at most one reply, to where it came from, and a reply makes
no dispatcher do anything. So there are never more replies than requests between two dispatchers. -/

namespace MediaSocket.Dispatcher

open Stun (Responder)

theorem class_take {datagram : Bytes} (stun : PacketClass.of datagram = .stun) (n : Nat) :
    PacketClass.of (datagram.take n) = .stun ∨ PacketClass.of (datagram.take n) = .unknown := by
  obtain ⟨first, rest, rfl, hfirst⟩ := PacketClass.of_eq_stun_iff.1 stun
  cases n with
  | zero => exact .inr rfl
  | succ n => exact .inl (PacketClass.of_eq_stun_iff.2 ⟨first, rest.take n, rfl, hfirst⟩)

theorem receive_listening {d : Dispatcher} {bound : Address} (listening : d.socket = some bound)
    {datagram : Bytes}
    (stun : PacketClass.of (datagram.take d.config.recvBufferSize.toNat) = .stun) (net : Network)
    (now : Time) (source : Address) :
    (d.receive net now source datagram).2 =
      (d.router bound).answer net ⟨source, datagram.take d.config.recvBufferSize.toNat⟩ := by
  rw [receive, listening]
  simp only [Router.route, packet, stun]

/-- A STUN datagram comes to nothing, or to one reply to where it came from. -/
theorem receive_stun {datagram : Bytes} (stun : PacketClass.of datagram = .stun) (d : Dispatcher)
    (net : Network) (now : Time) (source : Address) :
    (d.receive net now source datagram).2 = [] ∨
      ∃ n reply sent, PacketClass.of (datagram.take n) = .stun ∧
        d.responder.handle (datagram.take n) source = .ok (some reply) ∧
        (d.receive net now source datagram).2 = [.write ⟨source, reply, sent⟩] := by
  cases hsocket : d.socket with
  | none =>
    rw [receive, hsocket]
    exact .inl rfl
  | some bound =>
    obtain hclass | hclass := class_take stun d.config.recvBufferSize.toNat
    · rw [receive_listening hsocket hclass, Router.answer]
      simp only [router]
      cases hhandle : d.responder.handle (datagram.take d.config.recvBufferSize.toNat) source with
      | error e => exact .inl rfl
      | ok answer =>
        cases answer with
        | none => exact .inl rfl
        | some reply => exact .inr ⟨_, reply, _, hclass, hhandle, rfl⟩
    · rw [receive, hsocket]
      simp only [Router.route, packet, hclass]
      exact .inl trivial

/-- What comes of a STUN datagram are replies, which ask for nothing, and only a request gets one. -/
theorem effects_of_stun {datagram : Bytes} (stun : PacketClass.of datagram = .stun)
    (d : Dispatcher) (net : Network) (now : Time) (source : Address) :
    (∀ e ∈ (d.receive net now source datagram).2, ∃ reply sent, e = .write ⟨source, reply, sent⟩ ∧
      PacketClass.of reply = .stun ∧ asks reply = false) ∧
    (d.receive net now source datagram).2.length ≤ if asks datagram then 1 else 0 := by
  obtain hnothing | ⟨n, reply, sent, hclass, hreply, hwrite⟩ := receive_stun stun d net now source
  · rw [hnothing]
    exact ⟨fun e he => (nomatch he), Nat.zero_le _⟩
  · have hasked : asks datagram = true := beq_iff_eq.2 (Responder.messageClass_of_handle_take hreply)
    rw [hwrite, if_pos hasked]
    refine ⟨?_, Nat.le_refl 1⟩
    intro e he
    exact ⟨reply, sent, List.mem_singleton.1 he, Responder.class_reply hclass hreply,
      beq_eq_false_iff_ne.2 (Responder.messageClass_reply hreply)⟩

/-- A reply makes no dispatcher do anything: it is not answered, it does not reach the tunnel, and it
is not relayed. -/
theorem receive_reply {r : Responder} {raw : Bytes} {source : Address} {reply : Bytes}
    (stun : PacketClass.of raw = .stun) (h : r.handle raw source = .ok (some reply))
    (d : Dispatcher) (net : Network) (now : Time) (source' : Address) :
    (d.receive net now source' reply).2 = [] := by
  have hfew := (effects_of_stun (Responder.class_reply stun h) d net now source').2
  have hanswer : asks reply = false := beq_eq_false_iff_ne.2 (Responder.messageClass_reply h)
  rw [if_neg (Bool.not_eq_true _ ▸ hanswer)] at hfew
  exact List.eq_nil_of_length_eq_zero (Nat.le_zero.1 hfew)

namespace Exchange

/-- What holds between two dispatchers at any time: only STUN datagrams are under way, everything that
has come of them is a reply to one of the sides, and every reply has used up a request. -/
structure Balanced (address : Side → Address) (s : Exchange) : Prop where
  stun : ∀ x ∈ s.underWay, PacketClass.of x.2 = .stun
  replies : ∀ e ∈ s.done, ∃ side reply sent, e = .write ⟨address side, reply, sent⟩
  balance : s.done.length + s.underWay.countP (fun x => asks x.2) ≤ s.begun.countP asks

variable {net : Network} {address : Side → Address}

theorem balanced_quiet (dispatcher : Side → Dispatcher) : (quiet dispatcher).Balanced address :=
  ⟨fun _ hx => (nomatch hx), fun _ he => (nomatch he), Nat.le_refl 0⟩

theorem mem_sentTo {target : Address} {effects : List Effect} {datagram : Bytes}
    (h : datagram ∈ sentTo target effects) : ∃ w, .write w ∈ effects ∧ w.payload = datagram := by
  obtain ⟨e, he, hsent⟩ := List.mem_filterMap.1 h
  cases e with
  | write w =>
    obtain ⟨-, hpayload⟩ := Option.ite_none_right_eq_some.1 hsent
    exact ⟨w, he, Option.some.inj hpayload⟩
  | tunnel call => exact nomatch hsent

theorem Balanced.begin {s : Exchange} (h : s.Balanced address) {side : Side} {datagram : Bytes}
    (stun : PacketClass.of datagram = .stun) :
    Balanced address
      { s with underWay := s.underWay ++ [(side, datagram)], begun := s.begun ++ [datagram] } := by
  refine ⟨?_, h.replies, ?_⟩
  · intro x hx
    rcases List.mem_append.1 hx with hx | hx
    · exact h.stun x hx
    · rw [List.mem_singleton.1 hx]
      exact stun
  · have hbalance := h.balance
    simp only [List.countP_append, List.countP_singleton]
    omega

theorem Balanced.arrive {s : Exchange} (h : s.Balanced address)
    {front back : List (Side × Bytes)} {side : Side} {datagram : Bytes} {now : Time}
    {after : Dispatcher} {effects : List Effect}
    (under : s.underWay = front ++ (side, datagram) :: back)
    (received : (s.dispatcher side).receive net now (address side.other) datagram =
      (after, effects)) :
    Balanced address
      { s with
        dispatcher := fun x => if x = side then after else s.dispatcher x
        underWay :=
          front ++ back ++ (sentTo (address side.other) effects).map fun d => (side.other, d)
        done := s.done ++ effects } := by
  have hrest : (front ++ back).Sublist s.underWay :=
    under ▸ (List.Sublist.refl front).append (List.sublist_cons_self ..)
  have hstun : PacketClass.of datagram = .stun :=
    h.stun (side, datagram) (under ▸ List.mem_append_right _ (List.mem_cons_self ..))
  obtain ⟨hreplies, hfew⟩ :=
    effects_of_stun hstun (s.dispatcher side) net now (address side.other)
  rw [received] at hreplies hfew
  have hsent : ∀ d ∈ sentTo (address side.other) effects,
      PacketClass.of d = .stun ∧ asks d = false := by
    intro d hd
    obtain ⟨w, hw, rfl⟩ := mem_sentTo hd
    obtain ⟨reply, sent, hreply, hclass, hanswer⟩ := hreplies _ hw
    cases hreply
    exact ⟨hclass, hanswer⟩
  refine ⟨?_, ?_, ?_⟩
  · intro x hx
    rcases List.mem_append.1 hx with hx | hx
    · exact h.stun x (hrest.subset hx)
    · obtain ⟨d, hd, rfl⟩ := List.mem_map.1 hx
      exact (hsent d hd).1
  · intro e he
    rcases List.mem_append.1 he with he | he
    · exact h.replies e he
    · obtain ⟨reply, sent, hreply, -⟩ := hreplies e he
      exact ⟨side.other, reply, sent, hreply⟩
  · have hquiet : ((sentTo (address side.other) effects).map fun d => (side.other, d)).countP
        (fun x => asks x.2) = 0 := by
      rw [List.countP_map, List.countP_eq_zero]
      intro d hd
      exact Bool.not_eq_true _ ▸ (hsent d hd).2
    have hbalance := h.balance
    rw [under, List.countP_append, List.countP_cons] at hbalance
    dsimp only at hbalance hfew ⊢
    rw [List.length_append, List.countP_append, hquiet, List.countP_append]
    omega

theorem Balanced.lose {s : Exchange} (h : s.Balanced address) {front back : List (Side × Bytes)}
    {lost : Side × Bytes} (under : s.underWay = front ++ lost :: back) :
    Balanced address { s with underWay := front ++ back } := by
  have hbalance := h.balance
  have hfewer : (front ++ back).Sublist s.underWay :=
    under ▸ (List.Sublist.refl front).append (List.sublist_cons_self ..)
  refine ⟨fun x hx => h.stun x (hfewer.subset hx), h.replies, ?_⟩
  have hcount := List.Sublist.countP_le (p := fun x => asks x.2) hfewer
  exact Nat.le_trans (Nat.add_le_add_left hcount _) hbalance

theorem Balanced.step {s t : Exchange} (h : s.Balanced address) (step : Step net address s t) :
    t.Balanced address := by
  cases step with
  | begin stun => exact h.begin stun
  | arrive under received => exact h.arrive under received
  | lose under => exact h.lose under
  | turn => exact ⟨h.stun, h.replies, h.balance⟩

theorem balanced_of_runs {s t : Exchange} (h : s.Balanced address) (runs : Runs net address s t) :
    t.Balanced address := by
  induction runs with
  | refl => exact h
  | tail _ step ih => exact ih.step step

end Exchange

/-- A reply is the last datagram of its exchange. It starts with 1, every responder passes over it, and
no dispatcher does anything with it; so two dispatchers write no more replies to each other than
requests have been put on the way between them, and do nothing else with STUN datagrams. -/
theorem reply_is_last (net : Network) :
    (∀ (r : Responder) (raw : Bytes) (source : Address) (reply : Bytes),
      PacketClass.of raw = .stun → r.handle raw source = .ok (some reply) →
        reply.head? = some 0x01 ∧ PacketClass.of reply = .stun ∧
        (∀ (r' : Responder) (source' : Address), r'.handle reply source' = .ok none) ∧
        ∀ (d : Dispatcher) (now : Time) (source' : Address),
          (d.receive net now source' reply).2 = []) ∧
    ∀ (address : Side → Address) (dispatcher : Side → Dispatcher) (s : Exchange),
      Exchange.Runs net address (.quiet dispatcher) s →
        s.done.length ≤ s.begun.countP asks ∧
        ∀ e ∈ s.done, ∃ side reply sent, e = .write ⟨address side, reply, sent⟩ := by
  refine ⟨?_, ?_⟩
  · intro r raw source reply stun h
    exact ⟨Responder.head?_reply stun h, Responder.class_reply stun h, Responder.handle_reply h,
      fun d now source' => receive_reply stun h d net now source'⟩
  · intro address dispatcher s runs
    have hbalanced := Exchange.balanced_of_runs (Exchange.balanced_quiet dispatcher) runs
    have hbalance := hbalanced.balance
    exact ⟨by omega, hbalanced.replies⟩

/-- Of two dispatchers on one host, one answers a Binding request under the address of the other, and
that is all. -/
theorem reply_is_last_binding :
    let r : Responder := ⟨"0123456789abcdefghijkl", none⟩
    let request : Stun.Message := ⟨.request, .binding, Vector.replicate 12 0, []⟩
    let address : Side → Address
      | .left => .v4 .loopback 4000
      | .right => .v4 .loopback 5000
    let dispatcher (side : Side) : Dispatcher :=
      ⟨{}, r, .empty .wide, .running, some (address side)⟩
    PacketClass.of request.written = .stun ∧
      ∃ reply sent, r.handle request.written (address .right) = .ok (some reply) ∧
        reply.head? = some 0x01 ∧
        (∀ (r' : Responder) (source' : Address), r'.handle reply source' = .ok none) ∧
        ∃ s, Exchange.Runs .connected address (.quiet dispatcher) s ∧
          s.done = [.write ⟨address .right, reply, sent⟩] ∧ s.begun.countP asks = 1 ∧
          s.done.length ≤ s.begun.countP asks := by
  intro r request address dispatcher
  have stun : PacketClass.of request.written = .stun := by decide
  have hdecode : Stun.Message.decode request.written = .ok request :=
    Stun.Message.decode_written (fun a ha => nomatch ha) (by decide)
  have matched : ¬Stun.Responder.Mismatched request.written request :=
    fun ⟨⟨a, ha, _⟩, _⟩ => nomatch ha
  have brief : r.Brief := nofun
  have hreply : r.handle request.written (address .right) =
      .ok (some ((r.replyTo request (address .right)).signed r.key).written) := by
    rw [Stun.Responder.handle_of_matched hdecode matched, Stun.Responder.respond_eq brief, if_pos rfl]
  obtain ⟨hfirst, -, hanswered, -⟩ :=
    (reply_is_last .connected).1 r request.written (address .right) _ stun hreply
  have hwhole : request.written.take (dispatcher .left).config.recvBufferSize.toNat =
      request.written := List.take_of_length_le (by decide)
  obtain ⟨after, effects, hreceive⟩ : ∃ after effects,
      (dispatcher .left).receive .connected 0 (address .right) request.written =
        (after, effects) := ⟨_, _, rfl⟩
  have heffects := receive_listening (d := dispatcher .left) rfl (hwhole.symm ▸ stun) .connected 0
    (address .right)
  have hresponder : ((dispatcher .left).router (address .left)).responder = r := rfl
  rw [hwhole, hreceive, Router.answer, hresponder, hreply] at heffects
  let s : Exchange := ⟨dispatcher, [(.left, request.written)], [request.written], []⟩
  have hbegin : Exchange.Step .connected address (.quiet dispatcher) s := .begin stun
  have hunder : s.underWay = [] ++ (.left, request.written) :: [] := rfl
  have hruns := (Relation.ReflTransGen.single hbegin).tail (.arrive hunder hreceive)
  have hfew := ((reply_is_last .connected).2 address dispatcher _ hruns).1
  have hasked : [request.written].countP asks = 1 := by decide
  exact ⟨stun, _, _, hreply, hfirst, hanswered, _, hruns, heffects, hasked, hfew⟩

end MediaSocket.Dispatcher
