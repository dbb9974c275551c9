import MediaSocket.Proofs.Gateway.Ready

/-! Whom an answer of the key server goes to. Every association has a socket of its own, and every address
is stored under its own id; so an answer finds the way back that its record came. -/

namespace MediaSocket.Gateway

variable {net : Network} {g : Gateway} {bound a : Address} {now : Time} {source : Address}
  {datagram : Bytes}

namespace Conversation

/-- After any events, the key server has got the records of the events, each on the socket of its
association, and peers have got the answers of the events, each under the address that is registered
for the association of the record. -/
structure Attributed (net : Network) (bound : Address) (g : Gateway) (events : List Event)
    (s : Conversation) : Prop where
  ready : s.gateway.Ready net bound
  config : s.gateway.dispatcher.config = g.dispatcher.config
  width : s.gateway.dispatcher.registry.width = g.dispatcher.registry.width
  server : s.gateway.relay.server = g.relay.server
  records : s.records.map (fun r => (r.id, r.record)) =
    (events.filterMap (Event.sent? g.limit)).map fun x => (g.dispatcher.registry.resolve x.1, x.2)
  sockets : ∀ r ∈ s.records,
    (s.gateway.relay.sessions.get? r.id).map Session.socket = some r.socket
  registered : ∀ r ∈ s.records, ∃ a, s.gateway.dispatcher.registry.addressOf? r.id = some a
  answers : s.answered.map (fun x => (x.1, x.2.payload)) = events.filterMap Event.answer?
  addressed : ∀ x ∈ s.answered, x.2.sent = true ∧ ∃ r, s.records[x.1]? = some r ∧
    s.gateway.dispatcher.registry.addressOf? r.id = some x.2.target
  peers : ∀ id a, s.gateway.dispatcher.registry.addressOf? id = some a → g.IsPeer events a

variable {s : Conversation} {events : List Event} {e : Event}

theorem filterMap_concat_of_none {β : Type} {f : Event → Option β} (h : f e = none) :
    (events ++ [e]).filterMap f = events.filterMap f := by
  simp [h]

theorem attributed_fresh (ready : g.Ready net bound) : Attributed net bound g [] (fresh g) where
  ready := ready
  config := rfl
  width := rfl
  server := rfl
  records := rfl
  sockets := nofun
  registered := nofun
  answers := rfl
  addressed := nofun
  peers id _ h := .inl ⟨id, h⟩

theorem isPeer_concat (h : g.IsPeer events a) : g.IsPeer (events ++ [e]) a := by
  rcases h with h | ⟨now, datagram, h⟩
  · exact .inl h
  · exact .inr ⟨now, datagram, List.mem_append_left _ h⟩

theorem Attributed.resolve_eq (h : Attributed net bound g events s) (a : Address) :
    s.gateway.dispatcher.registry.resolve a = g.dispatcher.registry.resolve a := by
  rw [Registry.resolve, Registry.resolve, h.width]

theorem Attributed.limit_eq (h : Attributed net bound g events s) : s.gateway.limit = g.limit := by
  rw [limit, limit, h.config]

/-- A datagram of a peer. What the relay makes of it is `relay` and `sent`. -/
theorem Attributed.arrival (h : Attributed net bound g events s) {relay : Relay} {sent : List Relayed}
    (ready : Ready net bound { s.gateway.seen source now with relay })
    (server : relay.server = s.gateway.relay.server)
    (keeps : ∀ x t, s.gateway.relay.sessions.get? x = some t →
      (relay.sessions.get? x).map Session.socket = some t.socket)
    (sockets : ∀ r ∈ sent, r.id = g.dispatcher.registry.resolve source ∧
      (relay.sessions.get? r.id).map Session.socket = some r.socket)
    (records : sent.map (fun r => (r.id, r.record)) =
      ([Event.peer now source datagram].filterMap (Event.sent? g.limit)).map
        fun x => (g.dispatcher.registry.resolve x.1, x.2)) :
    Attributed net bound g (events ++ [.peer now source datagram])
      { s with
        gateway := { s.gateway.seen source now with relay }
        records := s.records ++ sent } where
  ready := ready
  config := h.config
  width := h.width
  server := server.trans h.server
  records := by
    rw [List.map_append, h.records, records, List.filterMap_append, List.map_append]
  sockets r hr := by
    rcases List.mem_append.1 hr with hr | hr
    · obtain ⟨t, ht, hsocket⟩ := Option.map_eq_some_iff.1 (h.sockets r hr)
      rw [keeps r.id t ht, hsocket]
    · exact (sockets r hr).2
  registered r hr := by
    rcases List.mem_append.1 hr with hr | hr
    · obtain ⟨a, ha⟩ := h.registered r hr
      exact ⟨a, Registry.addressOf?_register_of_known ha source now⟩
    · rw [(sockets r hr).1, ← h.resolve_eq source]
      exact ⟨_, Registry.addressOf?_register_self s.gateway.dispatcher.registry source now⟩
  answers := by rw [filterMap_concat_of_none rfl, h.answers]
  addressed x hx := by
    obtain ⟨hsent, r, hr, ha⟩ := h.addressed x hx
    have hlength : x.1 < s.records.length := (List.getElem?_eq_some_iff.1 hr).1
    refine ⟨hsent, r, ?_, Registry.addressOf?_register_of_known ha source now⟩
    rw [List.getElem?_append_left hlength]
    exact hr
  peers id a ha := by
    change (s.gateway.dispatcher.registry.register source now).addressOf? id = some a at ha
    rw [Registry.addressOf?_register] at ha
    -- the only address that can be new is the source of the datagram
    split at ha
    · cases hold : s.gateway.dispatcher.registry.addressOf? id with
      | none =>
        rw [hold] at ha
        cases ha
        exact .inr ⟨now, datagram, List.mem_append_right _ (List.mem_singleton.2 rfl)⟩
      | some b =>
        rw [hold] at ha
        cases ha
        exact isPeer_concat (h.peers id b hold)
    · exact isPeer_concat (h.peers id a ha)

/-- An answer of the key server. What peers get because of it is `got`. -/
theorem Attributed.reply (h : Attributed net bound g events s) {number : Nat} {r : Relayed}
    (elicited : s.records[number]? = some r) {got : List Write}
    (answers : got.map (fun w => (number, w.payload)) =
      [Event.server number datagram].filterMap Event.answer?)
    (addressed : ∀ w ∈ got, w.sent = true ∧
      s.gateway.dispatcher.registry.addressOf? r.id = some w.target) :
    Attributed net bound g (events ++ [.server number datagram])
      { s with answered := s.answered ++ got.map fun w => (number, w) } where
  ready := h.ready
  config := h.config
  width := h.width
  server := h.server
  records := by rw [filterMap_concat_of_none rfl, h.records]
  sockets := h.sockets
  registered := h.registered
  answers := by
    rw [List.map_append, h.answers, List.filterMap_append, List.map_map]
    exact congrArg _ answers
  addressed x hx := by
    rcases List.mem_append.1 hx with hx | hx
    · exact h.addressed x hx
    · obtain ⟨w, hw, rfl⟩ := List.mem_map.1 hx
      obtain ⟨hsent, ha⟩ := addressed w hw
      exact ⟨hsent, r, elicited, ha⟩
  peers id a ha := isPeer_concat (h.peers id a ha)

theorem Attributed.maintenance (h : Attributed net bound g events s) (now : Time) :
    Attributed net bound g (events ++ [.maintenance now]) s where
  ready := h.ready
  config := h.config
  width := h.width
  server := h.server
  records := by rw [filterMap_concat_of_none rfl, h.records]
  sockets := h.sockets
  registered := h.registered
  answers := by rw [filterMap_concat_of_none rfl, h.answers]
  addressed := h.addressed
  peers id a ha := isPeer_concat (h.peers id a ha)

theorem Attributed.step_peer (h : Attributed net bound g events s)
    (proper : s.Proper net (.peer now source datagram)) :
    Attributed net bound g (events ++ [.peer now source datagram])
      (s.step net (.peer now source datagram)) := by
  by_cases hdtls : PacketClass.of datagram = .dtls
  · obtain ⟨socket, opened, hjoins, hreceive⟩ := h.ready.receive_record hdtls proper
    rw [step, hreceive]
    apply h.arrival
    · exact (h.ready.seen source now).joined hjoins now
    · rfl
    · intro x t ht
      exact hjoins.keeps now ht
    · intro r hr
      obtain rfl := List.mem_singleton.1 hr
      refine ⟨h.resolve_eq source, ?_⟩
      rw [Relay.get?_joined, if_pos rfl]
      rfl
    · simp [Event.sent?, Output.record?, hdtls, h.resolve_eq, h.limit_eq]
  · obtain ⟨writes, hreceive⟩ := h.ready.receive_other hdtls now source
    have hnone : (writes.map Output.peer).filterMap Output.record? = [] := by
      rw [List.filterMap_map]
      exact List.filterMap_eq_nil_iff.2 fun w _ => rfl
    rw [step, hreceive]
    dsimp only
    rw [hnone]
    apply h.arrival
    · exact h.ready.seen source now
    · rfl
    · intro x t ht
      rw [ht]
      rfl
    · exact nofun
    · simp [Event.sent?, hdtls]

theorem Attributed.step_server (h : Attributed net bound g events s) {number : Nat}
    (proper : s.Proper net (.server number datagram)) :
    Attributed net bound g (events ++ [.server number datagram])
      (s.step net (.server number datagram)) := by
  obtain ⟨r, hr, htaken⟩ := proper
  have hmem : r ∈ s.records := List.mem_of_getElem? hr
  -- the session of the record is still open, and the peer is still known
  obtain ⟨session, hsession, hsocket⟩ := Option.map_eq_some_iff.1 (h.sockets r hmem)
  obtain ⟨a, ha⟩ := h.registered r hmem
  have hreply := h.ready.reply_eq hsession ha htaken
  rw [step, hr]
  dsimp only
  rw [← hsocket, hreply]
  by_cases hdtls : PacketClass.of datagram = .dtls
  · rw [if_pos hdtls]
    apply h.reply hr
    · simp [Event.answer?, Output.write?, hdtls]
    · intro w hw
      obtain rfl := List.mem_singleton.1 hw
      exact ⟨rfl, ha⟩
  · rw [if_neg hdtls]
    apply h.reply hr
    · simp [Event.answer?, hdtls]
    · exact nofun

theorem Attributed.step (h : Attributed net bound g events s) (proper : s.Proper net e) :
    Attributed net bound g (events ++ [e]) (s.step net e) := by
  cases e with
  | peer now source datagram => exact h.step_peer proper
  | server number datagram => exact h.step_server proper
  | maintenance now =>
    rw [Conversation.step, h.ready.maintained now]
    exact h.maintenance now

theorem attributed_run (ready : g.Ready net bound) (proceeds : (fresh g).Proceeds net events) :
    Attributed net bound g events ((fresh g).run net events) := by
  induction events using List.reverseRecOn with
  | nil => exact attributed_fresh ready
  | append_singleton events e ih =>
    obtain ⟨hevents, he⟩ := always_concat.1 proceeds
    rw [run, List.foldl_append]
    exact (ih hevents).step he

/-- Nothing makes the dispatcher forget an address. -/
theorem step_keeps_address (ready : s.gateway.Ready net bound) {id : AssociationId}
    (h : s.gateway.dispatcher.registry.addressOf? id = some a) (e : Event) :
    (s.step net e).gateway.dispatcher.registry.addressOf? id = some a := by
  cases e with
  | peer now source datagram =>
    obtain ⟨effects, hreceive, -⟩ := ready.receive_dispatcher now source datagram
    have hdispatcher : (s.gateway.receive net now source datagram).1.dispatcher =
        (s.gateway.seen source now).dispatcher := by
      rw [receive, hreceive]
    show (s.gateway.receive net now source datagram).1.dispatcher.registry.addressOf? id = some a
    rw [hdispatcher]
    exact Registry.addressOf?_register_of_known h source now
  | server number datagram =>
    rw [step]
    split
    · exact h
    · exact h
  | maintenance now =>
    rw [step, ready.maintained now]
    exact h

theorem run_keeps_address (ready : g.Ready net bound) {front back : List Event}
    (proceeds : (fresh g).Proceeds net (front ++ back)) {id : AssociationId}
    (h : ((fresh g).run net front).gateway.dispatcher.registry.addressOf? id = some a) :
    ((fresh g).run net (front ++ back)).gateway.dispatcher.registry.addressOf? id = some a := by
  induction back using List.reverseRecOn with
  | nil =>
    rw [List.append_nil]
    exact h
  | append_singleton back e ih =>
    rw [← List.append_assoc] at proceeds ⊢
    obtain ⟨hbefore, -⟩ := always_concat.1 proceeds
    rw [run, List.foldl_append]
    exact step_keeps_address (attributed_run ready hbefore).ready (ih hbefore) e

theorem Attributed.length_records (h : Attributed net bound g events s) :
    s.records.length = (events.filterMap (Event.sent? g.limit)).length := by
  have hlength := congrArg List.length h.records
  rwa [List.length_map, List.length_map] at hlength

theorem Attributed.transmits_eq (h : Attributed net bound g events s) (record : Bytes) :
    s.gateway.relay.transmits net record = g.relay.transmits net record := by
  rw [Relay.transmits, Relay.transmits, Relay.localAddress, Relay.localAddress, h.server]

theorem Attributed.proper_peer (h : Attributed net bound g events s)
    (records : ∀ x ∈ (Event.peer now source datagram).sent? g.limit,
      g.relay.transmits net x.2 = true) :
    s.Proper net (.peer now source datagram) := by
  intro call hcall
  obtain ⟨effects, hreceive, hemits⟩ := h.ready.receive_dispatcher now source datagram
  rw [hreceive] at hcall
  have hclass := class_take_of_pos h.ready.buffer datagram
  by_cases hdtls : PacketClass.of datagram = .dtls
  · obtain ⟨call', rfl, -, hrecord⟩ := hemits.call (hclass.trans hdtls)
    cases List.mem_singleton.1 hcall
    rw [h.transmits_eq, hrecord, h.limit_eq]
    apply records (source, datagram.take g.limit)
    exact if_pos hdtls
  · obtain ⟨writes, rfl⟩ := hemits.writes (hclass.symm ▸ hdtls)
    simp at hcall

theorem Attributed.proper_server (h : Attributed net bound g events s) {number : Nat}
    (answerable : number < (events.filterMap (Event.sent? g.limit)).length)
    (answers : ∀ x ∈ (Event.server number datagram).answer?, ∀ a, g.IsPeer events a →
      net.sends bound.ip a x.2 = true) :
    s.Proper net (.server number datagram) := by
  rw [← h.length_records] at answerable
  refine ⟨_, List.getElem?_eq_getElem answerable, ?_⟩
  intro bound' address htarget
  have haddressed := Dispatcher.target_eq_ok_iff.1 htarget
  have hdtls : PacketClass.of datagram = .dtls :=
    (class_take_of_pos (by decide) datagram).symm.trans haddressed.dtls
  obtain rfl : bound = bound' :=
    Option.some.inj (h.ready.listening.symm.trans haddressed.listening)
  apply answers (number, datagram.take 2048)
  · exact if_pos hdtls
  · exact h.peers _ _ haddressed.registered

/-- Everything is proper on a network that takes every record, and every answer for every peer. -/
theorem proceeds_of_taken (ready : g.Ready net bound) (answerable : Answerable g.limit events)
    (records : ∀ e ∈ events, ∀ x ∈ e.sent? g.limit, g.relay.transmits net x.2 = true)
    (answers : ∀ e ∈ events, ∀ x ∈ e.answer?, ∀ a, g.IsPeer events a →
      net.sends bound.ip a x.2 = true) :
    (fresh g).Proceeds net events := by
  induction events using List.reverseRecOn with
  | nil => exact always_nil _
  | append_singleton events e ih =>
    obtain ⟨hbefore, hlast⟩ := always_concat.1 answerable
    have hevents : (fresh g).Proceeds net events := by
      apply ih hbefore
      · intro e' he'
        exact records e' (List.mem_append_left _ he')
      · intro e' he' x hx a ha
        exact answers e' (List.mem_append_left _ he') x hx a (isPeer_concat ha)
    have h := attributed_run ready hevents
    have he : e ∈ events ++ [e] := List.mem_append_right _ (List.mem_singleton.2 rfl)
    refine always_concat.2 ⟨hevents, ?_⟩
    cases e with
    | peer now source datagram => exact h.proper_peer (records _ he)
    | server number datagram =>
      apply h.proper_server (hlast number rfl)
      intro x hx a ha
      exact answers _ he x hx a (isPeer_concat ha)
    | maintenance now => trivial

end Conversation

open Conversation

variable {events : List Event} {limit : Nat}

theorem Prompt.answerable (prompt : Prompt limit events) : Answerable limit events := by
  intro front e back hsplit number hnumber
  have hcount := prompt front e back hsplit number hnumber
  omega

theorem number?_of_answer? {e : Event} {x : Nat × Bytes} (h : e.answer? = some x) :
    e.number? = some x.1 := by
  cases e with
  | server number datagram =>
    obtain ⟨-, hx⟩ := Option.ite_none_right_eq_some.1 h
    obtain rfl := Option.some.inj hx
    rfl
  | peer => cases h
  | maintenance => cases h

theorem Answerable.below (answerable : Answerable limit events) {x : Nat × Bytes}
    (hx : x ∈ events.filterMap Event.answer?) :
    x.1 < (events.filterMap (Event.sent? limit)).length := by
  obtain ⟨e, he, hanswer⟩ := List.mem_filterMap.1 hx
  obtain ⟨front, back, rfl⟩ := List.append_of_mem he
  have hnumber := answerable front e back rfl x.1 (number?_of_answer? hanswer)
  rw [List.filterMap_append, List.length_append]
  exact Nat.lt_add_right _ hnumber

/-- Prompt answers come in the order of the records. -/
theorem Prompt.pairwise (prompt : Prompt limit events) :
    ((events.filterMap Event.answer?).map Prod.fst).Pairwise (· ≤ ·) := by
  induction events using List.reverseRecOn with
  | nil => exact List.Pairwise.nil
  | append_singleton events e ih =>
    obtain ⟨hevents, hlast⟩ := always_concat.1 prompt
    cases hanswer : e.answer? with
    | none =>
      rw [filterMap_concat_of_none hanswer]
      exact ih hevents
    | some y =>
      have hcount := hlast y.1 (number?_of_answer? hanswer)
      simp only [List.filterMap_append, List.filterMap_cons, hanswer, List.filterMap_nil,
        List.map_append, List.map_singleton, List.pairwise_append, List.mem_singleton,
        forall_eq, List.pairwise_singleton, true_and]
      refine ⟨ih hevents, ?_⟩
      -- earlier answers are to records that were there by then, this one is to the latest
      intro m hm
      obtain ⟨x, hx, rfl⟩ := List.mem_map.1 hm
      have hbelow := (Prompt.answerable hevents).below hx
      omega

theorem isPeer_of_sent {record : Bytes}
    (h : (a, record) ∈ events.filterMap (Event.sent? limit)) (g : Gateway) : g.IsPeer events a := by
  obtain ⟨e, he, hsent⟩ := List.mem_filterMap.1 h
  cases e with
  | peer now source datagram =>
    obtain ⟨-, hsame⟩ := Option.ite_none_right_eq_some.1 hsent
    cases hsame
    exact .inr ⟨now, datagram, he⟩
  | server => cases hsent
  | maintenance => cases hsent

/-- Two records went out on one socket only if they are of one association. -/
theorem Conversation.Attributed.socket_iff {s : Conversation}
    (h : Attributed net bound g events s) {r r' : Relayed} (hr : r ∈ s.records)
    (hr' : r' ∈ s.records) : r.socket = r'.socket ↔ r.id = r'.id := by
  obtain ⟨t, ht, hsocket⟩ := Option.map_eq_some_iff.1 (h.sockets r hr)
  obtain ⟨t', ht', hsocket'⟩ := Option.map_eq_some_iff.1 (h.sockets r' hr')
  rw [← hsocket, ← hsocket']
  constructor
  · exact h.ready.numbered.distinct ht ht'
  · intro hid
    rw [hid, ht'] at ht
    cases ht
    rfl

/-- If no two peers share an id, an answer goes to where the record came from. -/
theorem Conversation.Attributed.target_eq {s : Conversation}
    (h : Attributed net bound g events s)
    (apart : ∀ a b, g.IsPeer events a → g.IsPeer events b →
      g.dispatcher.registry.resolve a = g.dispatcher.registry.resolve b → a = b)
    {x : Nat × Write} (hx : x ∈ s.answered) :
    ∃ record, (events.filterMap (Event.sent? g.limit))[x.1]? = some (x.2.target, record) := by
  obtain ⟨-, r, hr, ha⟩ := h.addressed x hx
  have hrecord := congrArg (fun l => l[x.1]?) h.records
  simp only [List.getElem?_map, hr, Option.map_some] at hrecord
  obtain ⟨⟨source, record⟩, hsent, hid⟩ := Option.map_eq_some_iff.1 hrecord.symm
  have hsource : g.IsPeer events source := isPeer_of_sent (List.mem_of_getElem? hsent) g
  have htarget : g.dispatcher.registry.resolve x.2.target = r.id := by
    rw [← h.resolve_eq]
    exact h.ready.sound r.id x.2.target ha
  have hsame : g.dispatcher.registry.resolve x.2.target = g.dispatcher.registry.resolve source :=
    htarget.trans (congrArg Prod.fst hid).symm
  rw [apart x.2.target source (h.peers _ _ ha) hsource hsame]
  exact ⟨record, hsent⟩

/-- Every DTLS record of a peer reaches the key server once, on the socket of its association, which
no other association has, and nothing else does. Every answer that is a DTLS record goes once to the
address that is registered for the association of the record it answers, and no other answer goes
anywhere; an address that has been registered stays so. If no two peers share an id, a peer gets the
answers to its own records alone, and gets them in the order of the records if the key server sends
them so. -/
theorem answers_attributed (ready : g.Ready net bound)
    (proceeds : (fresh g).Proceeds net events) :
    let s := (fresh g).run net events
    let sent := events.filterMap (Event.sent? g.limit)
    let answers := events.filterMap Event.answer?
    let resolve := g.dispatcher.registry.resolve
    s.records.map (fun r => (r.id, r.record)) = sent.map (fun x => (resolve x.1, x.2)) ∧
      (∀ r ∈ s.records,
        (s.gateway.relay.sessions.get? r.id).map Session.socket = some r.socket) ∧
      (∀ r ∈ s.records, ∀ r' ∈ s.records, r.socket = r'.socket ↔ r.id = r'.id) ∧
      s.answered.map (fun x => (x.1, x.2.payload)) = answers ∧
      (∀ x ∈ s.answered, x.2.sent = true ∧ ∃ r, s.records[x.1]? = some r ∧
        s.gateway.dispatcher.registry.addressOf? r.id = some x.2.target) ∧
      (∀ front back, events = front ++ back → ∀ id a,
        ((fresh g).run net front).gateway.dispatcher.registry.addressOf? id = some a →
          s.gateway.dispatcher.registry.addressOf? id = some a) ∧
      ((∀ a b, g.IsPeer events a → g.IsPeer events b → resolve a = resolve b → a = b) →
        ∀ x ∈ s.answered, ∃ record, sent[x.1]? = some (x.2.target, record)) ∧
      ((answers.map Prod.fst).Pairwise (· ≤ ·) →
        ∀ a, ((s.answered.filter fun x => x.2.target = a).map Prod.fst).Pairwise (· ≤ ·)) := by
  intro s sent answers resolve
  have h : Attributed net bound g events s := attributed_run ready proceeds
  refine ⟨h.records, h.sockets, ?_, h.answers, h.addressed, ?_, ?_, ?_⟩
  · intro r hr r' hr'
    exact h.socket_iff hr hr'
  · rintro front back rfl id a ha
    exact run_keeps_address ready proceeds ha
  · intro apart x hx
    exact h.target_eq apart hx
  · intro ordered a
    have hnumbers : s.answered.map Prod.fst = answers.map Prod.fst := by
      show _ = (events.filterMap Event.answer?).map Prod.fst
      rw [← h.answers, List.map_map]
      rfl
    rw [← hnumbers] at ordered
    exact ordered.sublist (List.filter_sublist.map Prod.fst)

/-- Two peers, one record each, and three answers, of which the last is no DTLS record. -/
theorem answers_attributed_two_peers :
    let net := Network.connected
    let bound : Address := .v4 .loopback 4000
    let g : Gateway :=
      ⟨⟨{}, ⟨"0123456789abcdefghijkl", none⟩, .empty .wide, .running, some bound⟩,
        ⟨.v4 .loopback 4433, .empty, .empty, true, false, 0⟩⟩
    let a : Address := .v4 .loopback 5000
    let b : Address := .v4 .loopback 6000
    let events : List Event :=
      [.peer 0 a [22], .server 0 [20], .peer 1 b [23], .server 1 [21], .server 1 [0]]
    let s := (fresh g).run net events
    g.Ready net bound ∧ (fresh g).Proceeds net events ∧
      s.records.map (fun r => (r.id, r.record)) =
        [(AssociationId.derive a .wide, [22]), (AssociationId.derive b .wide, [23])] ∧
      s.answered.map (fun x => (x.1, x.2.payload)) = [(0, [20]), (1, [21])] ∧
      (∀ x ∈ s.answered, ∃ record : Bytes, [(a, [22]), (b, [23])][x.1]? = some (x.2.target, record)) ∧
      ∀ p, ((s.answered.filter fun x => x.2.target = p).map Prod.fst).Pairwise (· ≤ ·) := by
  intro net bound g a b events s
  have hother : AssociationId.derive a .wide ≠ AssociationId.derive b .wide := by decide +kernel
  have hsent : events.filterMap (Event.sent? g.limit) = [(a, [22]), (b, [23])] := rfl
  have hanswers : events.filterMap Event.answer? = [(0, [20]), (1, [21])] := rfl
  have hregistry : g.dispatcher.registry = (Registry.empty .wide).changeAll [] := rfl
  have hconnected : Relay.connect [.v4 .loopback 4433] =
      .ok ⟨.v4 .loopback 4433, .empty, .empty, false, false, 0⟩ := rfl
  have ready : g.Ready net bound :=
    ready_of_reached (d := g.dispatcher) rfl rfl rfl hregistry hconnected ⟨rfl, rfl⟩
      List.not_mem_nil
  have prompt : Prompt g.limit events := by
    have hevents : events = [] ++ [.peer 0 a [22]] ++ [.server 0 [20]] ++ [.peer 1 b [23]] ++
      [.server 1 [21]] ++ [.server 1 [0]] := rfl
    rw [hevents, Prompt]
    simp only [always_concat]
    refine ⟨⟨⟨⟨⟨always_nil _, ?_⟩, ?_⟩, ?_⟩, ?_⟩, ?_⟩ <;> rintro number ⟨⟩ <;> rfl
  have hpeer (p : Address) (hp : g.IsPeer events p) : p = a ∨ p = b := by
    rcases hp with ⟨id, hid⟩ | ⟨now, datagram, hmem⟩
    · cases hid
    · simp only [events, List.mem_cons, Event.peer.injEq, reduceCtorEq, List.not_mem_nil, or_false,
        false_or] at hmem
      rcases hmem with ⟨-, rfl, -⟩ | ⟨-, rfl, -⟩
      · exact .inl rfl
      · exact .inr rfl
  have proceeds : (fresh g).Proceeds net events := by
    apply proceeds_of_taken ready prompt.answerable
    · decide
    · intro e he x hx p hp
      rcases hpeer p hp with rfl | rfl
      · revert x e
        decide
      · revert x e
        decide
  have apart (p q : Address) (hp : g.IsPeer events p) (hq : g.IsPeer events q)
      (h : AssociationId.derive p .wide = AssociationId.derive q .wide) : p = q := by
    rcases hpeer p hp with rfl | rfl
    · rcases hpeer q hq with rfl | rfl
      · rfl
      · exact absurd h hother
    · rcases hpeer q hq with rfl | rfl
      · exact absurd h.symm hother
      · rfl
  obtain ⟨hrecords, -, -, hanswered, -, -, htarget, horder⟩ := answers_attributed ready proceeds
  rw [hsent] at hrecords htarget
  exact ⟨ready, proceeds, hrecords, hanswered, htarget apart, horder prompt.pairwise⟩

end MediaSocket.Gateway
