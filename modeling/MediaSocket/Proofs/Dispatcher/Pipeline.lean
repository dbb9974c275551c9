import MediaSocket.Dispatcher.Pipeline

/-! What is read goes through the queue to be routed, in order. Nothing is left out before the flag is
set; afterwards the rest is dropped, and what is dropped has not been routed at all. -/

namespace MediaSocket.Dispatcher

/-- What came of a packet and is still to be carried out. -/
def Dispatching.rest : Dispatching → List Effect
  | .routing rest => rest
  | _ => []

namespace Pipeline

variable {c : Config} {router : Router} {r : Registry} {s t : Pipeline}

/-- Routing the packets one after the other, with rounds of maintenance in between, gives the effects
and leaves the second registry. -/
inductive Routes (router : Router) (r : Registry) : List Packet → List Effect → Registry → Prop
  | nil : Routes router r [] [] r
  | tick {packets : List Packet} {effects : List Effect} {r' : Registry}
      (h : Routes router r packets effects r') (maxIdle : Option Span) (now : Time) :
      Routes router r packets effects (maxIdle.elim r' fun d => r'.prune d now)
  | concat {packets : List Packet} {effects : List Effect} {r' : Registry}
      (h : Routes router r packets effects r') (net : Network) (now : Time) (p : Packet) :
      Routes router r (packets ++ [p]) (effects ++ (router.route net r' now p).2)
        (router.route net r' now p).1

/-- The packets that have been read are those taken, those in the queue, the one in hand and the one
that was dropped when the receiving task ended. -/
structure Ordered (c : Config) (s : Pipeline) : Prop where
  read_eq : ∃ lost, s.read = s.taken ++ s.queue ++ s.receiving.inHand.toList ++ lost ∧
    lost.length ≤ 1 ∧ (lost = [] ∨ s.receiving = .ended)
  room : s.queue.length ≤ c.queueDepth.toNat
  /-- What is read are the datagrams that have arrived, each cut to the size of the buffer. -/
  cut : s.read = s.arrived.map fun a => ⟨a.1, a.2.take c.recvBufferSize.toNat⟩

theorem ordered_fresh (c : Config) (r : Registry) : (fresh r).Ordered c :=
  ⟨⟨[], rfl, Nat.zero_le _, .inl rfl⟩, Nat.zero_le _, rfl⟩

/-- A step that moves no packet keeps the order. -/
theorem Ordered.keep (h : s.Ordered c)
    (hlogs : (t.arrived, t.read, t.taken, t.queue) = (s.arrived, s.read, s.taken, s.queue))
    (hhand : t.receiving.inHand = s.receiving.inHand)
    (hended : s.receiving = .ended → t.receiving = .ended) : t.Ordered c := by
  simp only [Prod.mk.injEq] at hlogs
  obtain ⟨harrived, hread, htaken, hqueue⟩ := hlogs
  obtain ⟨⟨lost, hlost, hlength, hend⟩, hroom, hcut⟩ := h
  refine ⟨⟨lost, ?_, hlength, hend.imp_right hended⟩, ?_, ?_⟩
  · rw [hread, htaken, hqueue, hhand]
    exact hlost
  · rw [hqueue]
    exact hroom
  · rw [hread, harrived]
    exact hcut

/-- A packet that is dropped was the one in hand. -/
theorem Ordered.drop (h : s.Ordered c) {p : Packet} (hhand : s.receiving.inHand = some p) :
    Ordered c { s with receiving := .ended } := by
  obtain ⟨⟨lost, hlost, hlength, hend⟩, hroom, hcut⟩ := h
  have hnone : lost = [] := by
    obtain hnone | hended := hend
    · exact hnone
    · rw [hended] at hhand
      exact nomatch hhand
  subst hnone
  refine ⟨⟨[p], ?_, Nat.le_refl _, .inr rfl⟩, hroom, hcut⟩
  rw [hhand, List.append_nil] at hlost
  simpa [Receiving.inHand] using hlost

theorem Ordered.step (h : s.Ordered c) (step : Step c router s t) : t.Ordered c := by
  cases step with
  | look hstart =>
    refine h.keep rfl ?_ fun hended => nomatch hstart.symm.trans hended
    rw [hstart]
    cases s.flag <;> rfl
  | @read source datagram hreading =>
    obtain ⟨⟨lost, hlost, hlength, hend⟩, hroom, hcut⟩ := h
    rw [hreading] at hlost hend
    obtain rfl : lost = [] := hend.resolve_right nofun
    refine ⟨⟨[], ?_, Nat.zero_le _, .inl rfl⟩, hroom, ?_⟩
    · rw [hlost]
      simp [Receiving.inHand]
    · rw [hcut, List.map_append]
      rfl
  | wake hreading =>
    exact h.keep rfl (by rw [hreading]; rfl) fun hended => nomatch hreading.symm.trans hended
  | @check p hholding =>
    have hhand : s.receiving.inHand = some p := by rw [hholding]; rfl
    by_cases hflag : s.flag = true
    · rw [if_pos hflag]
      exact h.drop hhand
    · rw [if_neg hflag]
      exact h.keep rfl hhand.symm fun hended => nomatch hholding.symm.trans hended
  | @push p hoffering hspace =>
    obtain ⟨⟨lost, hlost, hlength, hend⟩, hroom, hcut⟩ := h
    rw [hoffering] at hlost hend
    obtain rfl : lost = [] := hend.resolve_right nofun
    refine ⟨⟨[], ?_, Nat.zero_le _, .inl rfl⟩, ?_, hcut⟩
    · simpa [Receiving.inHand] using hlost
    · rw [List.length_append]
      exact hspace
  | recheck hoffering =>
    exact h.keep rfl (by rw [hoffering]; rfl)
      fun hended => nomatch hoffering.symm.trans hended
  | @refuse p hoffering =>
    have hhand : s.receiving.inHand = some p := by rw [hoffering]; rfl
    exact h.drop hhand
  | @take net p rest now hwaiting hfirst =>
    obtain ⟨⟨lost, hlost, hlength, hend⟩, hroom, hcut⟩ := h
    rw [hfirst] at hlost hroom
    refine ⟨⟨lost, ?_, hlength, hend⟩, Nat.le_of_succ_le hroom, hcut⟩
    simpa using hlost
  | watch | tick | rewatch | starve | perform | finish | signal =>
    exact h.keep rfl rfl id

theorem Ordered.of_runs (h : s.Ordered c) (runs : Runs c router s t) : t.Ordered c := by
  induction runs with
  | refl => exact h
  | tail _ step ih => exact ih.step step

/-! ### Until the flag is set -/

/-- The tasks end only once the flag is set. -/
structure Alive (s : Pipeline) : Prop where
  receiving : s.receiving ≠ .ended
  dispatching : s.dispatching ≠ .ended

theorem alive_of_step (step : Step c router s t) (hs : s.flag = false → s.Alive)
    (hflag : t.flag = false) : t.Alive := by
  cases step with
  | look | check =>
    obtain ⟨-, hdispatching⟩ := hs hflag
    exact ⟨by simp [show s.flag = false from hflag], hdispatching⟩
  | read | wake | push | recheck => exact ⟨nofun, (hs hflag).dispatching⟩
  | refuse _ hended => exact absurd hended (hs hflag).dispatching
  | watch => exact ⟨(hs hflag).receiving, by simp [show s.flag = false from hflag]⟩
  | tick | take | rewatch | perform | finish => exact ⟨(hs hflag).receiving, nofun⟩
  | starve _ _ hended => exact absurd hended (hs hflag).receiving
  | signal => exact nomatch hflag

theorem alive_of_runs (runs : Runs c router (fresh r) s) : s.flag = false → s.Alive := by
  induction runs with
  | refl => exact fun _ => ⟨nofun, nofun⟩
  | tail _ step ih => exact alive_of_step step ih

/-! ### Routing -/

theorem Routes.step (h : Routes router r s.taken (s.done ++ s.dispatching.rest) s.registry)
    (step : Step c router s t) :
    Routes router r t.taken (t.done ++ t.dispatching.rest) t.registry := by
  cases step with
  | watch hstart =>
    rw [hstart] at h
    split <;> exact h
  | tick hwaiting =>
    rw [hwaiting] at h
    exact h.tick _ _
  | take hwaiting =>
    rw [hwaiting] at h
    change Routes router r s.taken (s.done ++ []) s.registry at h
    rw [List.append_nil] at h
    exact h.concat _ _ _
  | rewatch hwaiting | starve hwaiting =>
    rw [hwaiting] at h
    exact h
  | perform hrouting =>
    rw [hrouting] at h
    simpa [Dispatching.rest] using h
  | finish hrouting =>
    rw [hrouting] at h
    exact h
  | look | read | wake | check | push | recheck | refuse | signal => exact h

theorem routes_of_runs (runs : Runs c router (fresh r) s) :
    Routes router r s.taken (s.done ++ s.dispatching.rest) s.registry := by
  induction runs with
  | refl => exact .nil
  | tail _ step ih => exact ih.step step

/-- Once the dispatching task has ended, nothing is taken, routed or carried out any more. -/
theorem at_rest_of_runs (hended : s.dispatching = .ended) (runs : Runs c router s t) :
    t.dispatching = .ended ∧ t.taken = s.taken ∧ t.done = s.done ∧ t.registry = s.registry := by
  induction runs with
  | refl => exact ⟨hended, rfl, rfl, rfl⟩
  | tail _ step ih =>
    obtain ⟨hended, ih⟩ := ih
    cases step with
    | watch h | tick h | take h | rewatch h | perform h | finish h =>
      exact nomatch hended.symm.trans h
    | starve => exact ⟨rfl, ih⟩
    | look | read | wake | check | push | recheck | refuse | signal => exact ⟨hended, ih⟩

theorem Ordered.taken_prefix (h : s.Ordered c) : s.taken <+: s.read := by
  obtain ⟨lost, hlost, -⟩ := h.read_eq
  rw [hlost, List.append_assoc, List.append_assoc]
  exact List.prefix_append ..

theorem Ordered.length_read_le (h : s.Ordered c) :
    s.read.length ≤ s.taken.length + (c.queueDepth.toNat + 1) := by
  obtain ⟨lost, hlost, hlength, hend⟩ := h.read_eq
  have hroom := h.room
  have hhand : s.receiving.inHand.toList.length + lost.length ≤ 1 := by
    obtain rfl | hended := hend
    · cases s.receiving.inHand <;> simp
    · rw [hended]
      simpa [Receiving.inHand] using hlength
  rw [hlost]
  simp only [List.length_append]
  omega

/-- However the tasks take turns: the packets read are the datagrams that arrived, in order and each cut
to the size of the buffer. Until the flag is set, they are those taken for routing, those in the queue
and at most one in hand, which waits only while the queue is full. Afterwards those taken are still the
first of those read, and what has been carried out is what comes of routing them, each as a whole; when
the dispatching task has ended, nothing more is taken or carried out. -/
theorem pipeline_in_order (runs : Runs c router (fresh r) s) :
    (s.flag = false → s.read = s.taken ++ s.queue ++ s.receiving.inHand.toList) ∧
      (s.flag = false → ∀ p, s.receiving = .offering p → s.queue.length < c.queueDepth.toNat →
        Step c router s { s with receiving := .start, queue := s.queue ++ [p] }) ∧
      (s.read = s.arrived.map fun a => ⟨a.1, a.2.take c.recvBufferSize.toNat⟩) ∧
      s.queue.length ≤ c.queueDepth.toNat ∧
      s.read.length ≤ s.taken.length + (c.queueDepth.toNat + 1) ∧
      s.taken <+: s.read ∧
      Routes router r s.taken (s.done ++ s.dispatching.rest) s.registry ∧
      (s.dispatching = .ended → Routes router r s.taken s.done s.registry ∧
        ∀ t, Runs c router s t →
          t.taken = s.taken ∧ t.done = s.done ∧ t.registry = s.registry) := by
  have hordered : s.Ordered c := (ordered_fresh c r).of_runs runs
  have hroutes := routes_of_runs runs
  refine ⟨?_, ?_, hordered.cut, hordered.room, hordered.length_read_le, hordered.taken_prefix, hroutes,
    ?_⟩
  · intro hflag
    obtain ⟨lost, hlost, -, hend⟩ := hordered.read_eq
    obtain rfl : lost = [] := hend.resolve_right (alive_of_runs runs hflag).receiving
    rw [hlost, List.append_nil]
  · intro hflag p hoffering hspace
    exact .push hoffering hspace (alive_of_runs runs hflag).dispatching
  · intro hended
    refine ⟨?_, fun t later => (at_rest_of_runs hended later).2⟩
    rw [hended] at hroutes
    simpa [Dispatching.rest] using hroutes

/-- The queue has room for one packet, and the buffer for 20 bytes. A record of 31 bytes is cut. The flag
is set while it is being routed, a second packet is in the queue and a third one waits for room. The
record still reaches the tunnel, and the others are dropped. -/
theorem pipeline_in_order_dropped :
    let c : Config := { queueDepth := 1, recvBufferSize := 20 }
    let router : Router := ⟨.v4 .loopback, ⟨"0123456789abcdefghijkl", none⟩, [], .unicast⟩
    let r := Registry.empty .wide
    let peer : Address := .v4 .loopback 5000
    let long : Bytes := 23 :: List.replicate 30 7
    let short : Bytes := 23 :: List.replicate 19 7
    ∃ s, Runs c router (fresh r) s ∧ s.receiving = .ended ∧ s.dispatching = .ended ∧
      s.arrived = [(peer, long), (peer, [24]), (peer, [25])] ∧
      s.read = [⟨peer, short⟩, ⟨peer, [24]⟩, ⟨peer, [25]⟩] ∧ s.taken = [⟨peer, short⟩] ∧
      s.done = [.tunnel (.send (r.resolve peer) short)] ∧
      (s.read = s.arrived.map fun a => ⟨a.1, a.2.take 20⟩) ∧
      Routes router r s.taken s.done s.registry ∧
      ∀ t, Runs c router s t → t.taken = s.taken ∧ t.done = s.done ∧ t.registry = s.registry := by
  intro c router r peer long short
  have hread : ∀ {s : Pipeline} (datagram : Bytes), s.receiving = .reading → Step c router s
      { s with
        receiving := .holding ⟨peer, datagram.take 20⟩
        arrived := s.arrived ++ [(peer, datagram)]
        read := s.read ++ [⟨peer, datagram.take 20⟩] } :=
    fun datagram hreading => @Step.read c router _ peer datagram hreading
  have runs : Runs c router (fresh r) _ :=
    .head (.look rfl) <| .head (hread long rfl) <| .head (.check rfl) <|
      .head (.push rfl (by decide) nofun) <|
      .head (.watch rfl) <| .head (@Step.take c router _ .connected _ _ 0 rfl rfl) <|
      .head (.look rfl) <| .head (hread [24] rfl) <| .head (.check rfl) <|
      .head (.push rfl (by decide) nofun) <|
      .head (.look rfl) <| .head (hread [25] rfl) <| .head (.check rfl) <|
      .head .signal <|
      .head (.recheck rfl) <| .head (.check rfl) <|
      .head (.perform rfl) <| .head (.finish rfl) <| .head (.watch rfl) .refl
  obtain ⟨-, -, hcut, -, -, -, -, hrest⟩ := pipeline_in_order runs
  exact ⟨_, runs, rfl, rfl, rfl, rfl, rfl, rfl, hcut, hrest rfl⟩

end Pipeline

end MediaSocket.Dispatcher
