import MediaSocket.Proofs.Relay.Stop

/-! Keys of an association outlast the calls under way exactly when none of these has the association
on its list to forget: `closeIdle` drops the sessions that are idle first and forgets their keys one
after the other later, when some of the sessions may have been opened again. -/

namespace MediaSocket.Relay

variable {net : Network} {now : Time} {id : AssociationId} {r : Relay}

/-! ### A step of one call -/

/-- A session after a step was there before, or has just been found or opened. -/
theorem Call.session_of_step {c : Call} {s : Session}
    (h : (c.step net now r).1.sessions.get? id = some s) :
    r.sessions.get? id = some s ∨ s.lastSent = now := by
  cases c with
  | join x record =>
    rw [step] at h
    cases hsession : r.openSession net x now with
    | error e =>
      rw [hsession] at h
      exact .inl h
    | ok result =>
      obtain ⟨r', socket⟩ := result
      obtain ⟨opened, -, rfl⟩ := openSession_joins hsession
      rw [hsession] at h
      dsimp only at h
      rw [get?_joined] at h
      split at h
      · cases h
        exact .inr rfl
      · exact .inl h
  | drop x =>
    rw [step, dropSession, Table.get?_erase] at h
    exact .inl (Option.ite_none_left_eq_some.1 h).2
  | dropIdle maxIdle began =>
    rw [step, Relay.dropIdle, Table.get?_filter] at h
    exact .inl (Option.filter_eq_some_iff.1 h).1
  | forgetEach ids => cases ids <;> exact .inl h
  | close =>
    rw [step] at h
    split at h <;> exact .inl h
  | dropSessions => cases h
  | _ => exact .inl h

/-- No step makes a session idle for a call that has begun. -/
theorem Call.not_mem_idleIds_step (c : Call) {maxIdle : Span} {began : Time} (hpos : 0 < maxIdle)
    (hbegan : began ≤ now) (h : id ∉ r.idleIds maxIdle began) :
    id ∉ (c.step net now r).1.idleIds maxIdle began := by
  rw [mem_idleIds]
  rintro ⟨s, hsession, hidle⟩
  obtain hbefore | hnow := Call.session_of_step hsession
  · exact h (mem_idleIds.2 ⟨s, hbefore, hidle⟩)
  · rw [hnow, Nat.sub_eq_zero_of_le hbegan] at hidle
    exact Nat.not_lt.2 hidle hpos

theorem Call.MayForget.of_step {c c' : Call} (hbegan : ∀ maxIdle began,
      c' = .dropIdle maxIdle began → began ≤ now) (h : c'.MayForget (c.step net now r).1 id) :
    c'.MayForget r id := by
  cases c' with
  | dropIdle maxIdle began =>
    rcases Nat.eq_zero_or_pos maxIdle with hzero | hpos
    · exact .inl hzero
    · refine .inr (Decidable.not_not.1 fun hbefore => ?_)
      obtain rfl | hmem := h
      · exact Nat.lt_irrefl 0 hpos
      · exact c.not_mem_idleIds_step hpos (hbegan _ _ rfl) hbefore hmem
  | _ => exact h

/-- What is left of a call forgets no more keys than the call would have. -/
theorem Call.Next.mayForget {c c' : Call} (hnext : Next r c c') {r' : Relay}
    (h : c'.MayForget r' id) : c.MayForget r id := by
  cases hnext with
  | dropIdle => exact .inr h
  | forgetEach => exact List.mem_cons_of_mem _ h
  | _ => exact h.elim

/-- No call begins again. -/
theorem Call.Next.not_begins {c c' : Call} (hnext : Next r c c') (now : Time) : ¬c'.Begins now := by
  cases hnext <;> exact fun h => h

theorem Call.keysOf?_step {c : Call} (h : ¬c.MayForget r id) (hset : ∀ keys, c ≠ .setKeys id keys) :
    (c.step net now r).1.keysOf? id = r.keysOf? id := by
  cases c with
  | join x record =>
    rw [step]
    cases hsession : r.openSession net x now with
    | error e => rfl
    | ok result =>
      obtain ⟨r', socket⟩ := result
      obtain ⟨s, opened, -, -, rfl⟩ := openSession_eq_ok hsession
      rfl
  | setKeys x keys =>
    have hx : x ≠ id := by
      rintro rfl
      exact hset keys rfl
    exact (Table.get?_insert ..).trans (if_neg hx)
  | forget x =>
    rw [step, keysOf?_forgetKeys, if_neg (Ne.symm h)]
  | forgetEach ids =>
    cases ids with
    | nil => rfl
    | cons x ids =>
      have hx : id ≠ x := by
        rintro rfl
        exact h (List.mem_cons_self ..)
      rw [step, keysOf?_forgetKeys, if_neg hx]
  | close =>
    rw [step]
    split <;> rfl
  | _ => rfl

namespace Shared

variable {s t u : Shared} {e : Event} {keys : Srtp.Keys}

/-! ### Runs of events -/

theorem Trace.append {first rest : List Event} (h : Trace net s first t)
    (hrest : Trace net t rest u) : Trace net s (first ++ rest) u := by
  induction h with
  | nil => exact hrest
  | cons step _ ih => exact .cons step (ih hrest)

/-- The events of a call of `send` that no other call comes between. -/
def sending (id : AssociationId) (socket : Nat) (record : Bytes) : List Event :=
  [.begin (.look id record), .act (.look id record), .act (.join id record),
    .act (.write id socket record)]

theorem trace_sending {relay : Relay} {socket : Nat} (hopen : s.relay.closed = false)
    (hsession : s.relay.openSession net id s.now = .ok (relay, socket)) (record : Bytes) :
    Trace net s (sending id socket record)
      { s with
        relay
        sent := s.sent ++ if relay.transmits net record then [⟨id, socket, record⟩] else [] } := by
  have hlook : Step net { s with calls := s.calls ++ [.look id record] } (.act (.look id record))
      { s with calls := s.calls ++ [.join id record] } := by
    have step := @Step.act net { s with calls := s.calls ++ [.look id record] } _ [] _ rfl
    simpa [Call.step, hopen] using step
  have hjoin : Step net { s with calls := s.calls ++ [.join id record] } (.act (.join id record))
      { s with relay, calls := s.calls ++ [.write id socket record] } := by
    have step := @Step.act net { s with calls := s.calls ++ [.join id record] } _ [] _ rfl
    simpa [Call.step, hsession] using step
  have hwrite := @Step.act net { s with relay, calls := s.calls ++ [.write id socket record] } _ [] _
    rfl
  simp only [Call.step, Option.toList_none, List.append_nil] at hwrite
  exact .cons (.begin trivial) <| .cons hlook <| .cons hjoin <| .cons hwrite .nil

/-- Any call under way may take its next step. -/
theorem exists_act {c : Call} (h : c ∈ s.calls) :
    ∃ t, Step net s (.act c) t ∧ t.relay = (c.step net s.now s.relay).1 ∧
      ∀ c', (c.step net s.now s.relay).2.1 = some c' → c' ∈ t.calls := by
  obtain ⟨front, back, hcalls⟩ := List.append_of_mem h
  refine ⟨_, .act hcalls, rfl, fun c' hnext => ?_⟩
  simp [hnext]

/-! ### Nothing under way forgets the keys -/

/-- No call of `closeIdle` began later than now. -/
def Timely (s : Shared) : Prop :=
  ∀ maxIdle began, .dropIdle maxIdle began ∈ s.calls → began ≤ s.now

theorem Timely.step (h : s.Timely) (step : Step net s e t) : t.Timely := by
  intro maxIdle began hcall
  cases step with
  | begin hbegins =>
    rcases List.mem_append.1 hcall with hcall | hcall
    · exact h maxIdle began hcall
    · cases List.mem_singleton.1 hcall
      exact Nat.le_of_eq hbegins
  | @act front back c hcalls =>
    simp only [List.mem_append, Option.mem_toList] at hcall
    apply h maxIdle began
    rw [hcalls, List.mem_append, List.mem_cons]
    obtain (hcall | hnext) | hcall := hcall
    · exact .inl hcall
    · exact absurd rfl ((Call.next_of_step hnext).not_begins began)
    · exact .inr (.inr hcall)
  | wait => exact Nat.le_trans (h maxIdle began hcall) (Nat.le_add_right _ _)

/-- Keys that are there, and that no call under way may forget. -/
structure Settled (id : AssociationId) (keys : Srtp.Keys) (s : Shared) : Prop where
  timely : s.Timely
  there : s.relay.keysOf? id = some keys
  none_forgets : ∀ c ∈ s.calls, ¬c.MayForget s.relay id

theorem Settled.step (h : s.Settled id keys) (step : Step net s e t) (he : ¬e.Rekeys id) :
    t.Settled id keys := by
  have htimely := h.timely.step step
  cases step with
  | @begin c hbegins =>
    refine ⟨htimely, h.there, fun c' hc' => ?_⟩
    rcases List.mem_append.1 hc' with hc' | hc'
    · exact h.none_forgets c' hc'
    · rw [List.mem_singleton.1 hc']
      intro hforgets
      cases c with
      | forget x => exact he hforgets
      | dropIdle maxIdle began => exact he trivial
      | forgetEach ids => exact hbegins
      | _ => exact hforgets
  | @act front back c hcalls =>
    have hc : c ∈ s.calls := by simp [hcalls]
    have hset : ∀ keys', c ≠ .setKeys id keys' := by
      rintro keys' rfl
      exact he rfl
    refine ⟨htimely, (Call.keysOf?_step (h.none_forgets c hc) hset).trans h.there, ?_⟩
    intro c' hc' hforgets
    have hothers : c' ∈ s.calls → False := fun hmem =>
      h.none_forgets c' hmem (hforgets.of_step fun maxIdle began hdrop =>
        h.timely maxIdle began (hdrop ▸ hmem))
    rw [hcalls, List.mem_append, List.mem_cons] at hothers
    simp only [List.mem_append, Option.mem_toList] at hc'
    obtain (hc' | hnext) | hc' := hc'
    · exact hothers (.inl hc')
    · exact h.none_forgets c hc ((Call.next_of_step hnext).mayForget hforgets)
    · exact hothers (.inr (.inr hc'))
  | wait => exact ⟨htimely, h.there, h.none_forgets⟩

theorem Settled.keeps (h : s.Settled id keys) : s.Keeps net id keys := by
  intro events t trace he
  induction trace with
  | nil => exact h.there
  | cons step _ ih =>
    exact ih (h.step step (he _ (List.mem_cons_self ..)))
      fun e hmem => he e (List.mem_cons_of_mem _ hmem)

/-! ### A call under way forgets the keys -/

/-- The keys of an association may go, though it is not given others and no call begins that forgets
them. -/
def Loses (net : Network) (id : AssociationId) (s : Shared) : Prop :=
  ∃ events t, Trace net s events t ∧ (∀ e ∈ events, ¬e.Rekeys id) ∧ t.relay.keysOf? id = none

theorem Loses.of_trace {events : List Event} (h : t.Loses net id) (trace : Trace net s events t)
    (hevents : ∀ e ∈ events, ¬e.Rekeys id) : s.Loses net id := by
  obtain ⟨rest, u, hrest, hkept, hnone⟩ := h
  refine ⟨events ++ rest, u, trace.append hrest, fun e he => ?_, hnone⟩
  rcases List.mem_append.1 he with he | he
  · exact hevents e he
  · exact hkept e he

theorem Loses.of_step (h : t.Loses net id) (step : Step net s e t) (he : ¬e.Rekeys id) :
    s.Loses net id :=
  h.of_trace (.cons step .nil) (by simpa using he)

theorem Loses.not_keeps (h : s.Loses net id) : ¬s.Keeps net id keys := by
  intro hkeeps
  obtain ⟨events, t, trace, hevents, hnone⟩ := h
  exact nomatch (hkeeps events t trace hevents).symm.trans hnone

theorem loses_of_keysOf?_eq_none (h : s.relay.keysOf? id = none) : s.Loses net id :=
  ⟨[], s, .nil, nofun, h⟩

theorem loses_of_forget (h : .forget id ∈ s.calls) : s.Loses net id := by
  obtain ⟨t, step, hrelay, -⟩ := exists_act h
  refine Loses.of_step (loses_of_keysOf?_eq_none ?_) step (fun h => h)
  rw [hrelay, Call.step, keysOf?_forgetKeys, if_pos rfl]

theorem loses_of_forgetEach {ids : List AssociationId} (h : .forgetEach ids ∈ s.calls)
    (hid : id ∈ ids) : s.Loses net id := by
  induction ids generalizing s with
  | nil => exact nomatch hid
  | cons x ids ih =>
    obtain ⟨t, step, hrelay, hnext⟩ := exists_act h
    refine Loses.of_step ?_ step (fun h => h)
    by_cases hx : id = x
    · apply loses_of_keysOf?_eq_none
      rw [hrelay, Call.step, keysOf?_forgetKeys, if_pos hx]
    · exact ih (hnext _ rfl) ((List.mem_cons.1 hid).resolve_left hx)

theorem loses_of_dropIdle {maxIdle : Span} {began : Time} (h : .dropIdle maxIdle began ∈ s.calls)
    (hid : id ∈ s.relay.idleIds maxIdle began) : s.Loses net id := by
  obtain ⟨t, step, -, hnext⟩ := exists_act h
  exact Loses.of_step (loses_of_forgetEach (hnext _ rfl) hid) step (fun h => h)

/-- A `closeIdle` that closes every session also closes one that `send` opens just before. -/
theorem loses_of_dropAll (hreaches : s.relay.Reaches net) (hopen : s.relay.closed = false)
    {began : Time} (h : .dropIdle 0 began ∈ s.calls) : s.Loses net id := by
  obtain ⟨socket, opened, hsession⟩ := openSession_of_reaches hreaches id s.now
  refine Loses.of_trace ?_ (trace_sending hopen hsession []) (by simp [sending, Event.Rekeys])
  refine @loses_of_dropIdle net id _ 0 began h ?_
  rw [mem_idleIds]
  exact ⟨_, (Table.get?_insert ..).trans (if_pos rfl), Nat.zero_le _⟩

theorem loses_of_mayForget (hreaches : s.relay.Reaches net) (hopen : s.relay.closed = false)
    {c : Call} (hc : c ∈ s.calls) (h : c.MayForget s.relay id) : s.Loses net id := by
  cases c with
  | forget x =>
    cases h
    exact loses_of_forget hc
  | dropIdle maxIdle began =>
    obtain rfl | hidle := h
    · exact loses_of_dropAll hreaches hopen hc
    · exact loses_of_dropIdle hc hidle
  | forgetEach ids => exact loses_of_forgetEach hc h
  | _ => exact h.elim

theorem relay_of_setKeys (hset : Step net s (.act (.setKeys id keys)) t) :
    t.relay = s.relay.setKeys id keys := by
  cases hset with
  | act hcalls => rfl

/-- Keys that an association is given last until it is given others or a call begins that may forget
them, if and only if no call under way may forget them: no `closeSession` that has yet to forget keys,
and no `closeIdle` that has dropped the session of the association and has yet to forget its keys, or
that will drop its session. -/
theorem setKeys_lasts_iff {r : Relay} (hruns : Runs net (.idle r) s)
    (hset : Step net s (.act (.setKeys id keys)) t) :
    ((∀ c ∈ t.calls, ¬c.MayForget t.relay id) → t.Keeps net id keys) ∧
    (r.Reaches net → s.relay.closed = false → t.Keeps net id keys →
      ∀ c ∈ t.calls, ¬c.MayForget t.relay id) := by
  have hrelay := relay_of_setKeys hset
  constructor
  · intro hnone
    have htimely : s.Timely := hruns.preserves .step (fun _ _ h => absurd h List.not_mem_nil)
    refine Settled.keeps ⟨htimely.step hset, ?_, hnone⟩
    rw [hrelay]
    exact (Table.get?_insert ..).trans (if_pos rfl)
  · intro hreaches hopen hkeeps c hc hforgets
    have hserver : t.relay.server = r.server := hrelay ▸ (hruns.preserves .step (sound_idle r)).server
    have hlost := loses_of_mayForget (hreaches.of_server_eq hserver) (hrelay ▸ hopen) hc hforgets
    exact hlost.not_keeps hkeeps

/-- `closeIdle` still has the keys of another association to forget. -/
theorem setKeys_lasts_iff_other :
    let r : Relay := ⟨.v4 .loopback 5000, .empty, .empty, false, false, 0⟩
    let idle : AssociationId := .ofNat 1
    let id : AssociationId := .ofNat 2
    let keys : Srtp.Keys := ⟨[1], [2], [3], [4]⟩
    ∃ s t,
      Trace .connected (.idle r)
        (sending idle 0 [22] ++ [.wait 10, .begin (.dropIdle 5 10), .act (.dropIdle 5 10),
          .begin (.setKeys id keys)]) s ∧
      Step .connected s (.act (.setKeys id keys)) t ∧
      t.calls = [.forgetEach [idle]] ∧ t.Keeps .connected id keys := by
  intro r idle id keys
  let r₁ : Relay := { r with sessions := r.sessions.insert idle ⟨0, 0⟩, opened := 1 }
  let sent : List Relayed := [⟨idle, 0, [22]⟩]
  let s : Shared := ⟨r₁.dropIdle 5 10, 10, [.forgetEach [idle], .setKeys id keys], sent⟩
  have hsend : Trace .connected (.idle r) (sending idle 0 [22]) ⟨r₁, 0, [], sent⟩ :=
    trace_sending rfl rfl [22]
  have hdrop : [.dropIdle 5 10] = [] ++ Call.dropIdle 5 10 :: [] := rfl
  have hclose : Trace .connected ⟨r₁, 0, [], sent⟩ [.wait 10, .begin (.dropIdle 5 10),
      .act (.dropIdle 5 10), .begin (.setKeys id keys)] s :=
    .cons .wait <| .cons (.begin rfl) <| .cons (.act hdrop) <| .cons (.begin trivial) .nil
  have htrace := hsend.append hclose
  have hcalls : s.calls = [.forgetEach [idle]] ++ .setKeys id keys :: [] := rfl
  have hset : Step .connected s (.act (.setKeys id keys))
      ⟨s.relay.setKeys id keys, 10, [.forgetEach [idle]], sent⟩ := .act hcalls
  obtain ⟨hkeeps, -⟩ := setKeys_lasts_iff htrace.runs hset
  refine ⟨s, _, htrace, hset, rfl, hkeeps fun c hc => ?_⟩
  rw [List.mem_singleton.1 hc]
  show id ∉ [idle]
  decide

/-- Two associations are idle. `closeIdle` drops both sessions, forgets the keys of the first and waits
for its reader to end; the other one has sent a record again and been given keys by the time
`closeIdle` goes on and forgets them, and its new session has none. -/
theorem setKeys_lost_after_reopening :
    let r : Relay := ⟨.v4 .loopback 5000, .empty, .empty, false, false, 0⟩
    let first : AssociationId := .ofNat 1
    let id : AssociationId := .ofNat 2
    let keys : Srtp.Keys := ⟨[1], [2], [3], [4]⟩
    ∃ s t,
      Trace .connected (.idle r)
        (sending first 0 [22] ++ sending id 1 [22] ++
          [.wait 10, .begin (.dropIdle 5 10), .act (.dropIdle 5 10), .act (.forgetEach [first, id])] ++
          sending id 2 [22] ++ [.begin (.setKeys id keys), .act (.setKeys id keys)]) s ∧
      s.relay.sessions.contains id = true ∧ s.relay.keysOf? id = some keys ∧
      Trace .connected s [.act (.forgetEach [id]), .act (.forgetEach [])] t ∧ t.calls = [] ∧
      t.relay.sessions.contains id = true ∧ t.relay.keysOf? id = none ∧
      ¬s.Keeps .connected id keys := by
  intro r first id keys
  let r₁ : Relay := { r with sessions := r.sessions.insert first ⟨0, 0⟩, opened := 1 }
  let r₂ : Relay := { r₁ with sessions := r₁.sessions.insert id ⟨1, 0⟩, opened := 2 }
  let r₃ : Relay := (r₂.dropIdle 5 10).forgetKeys first
  let r₄ : Relay := { r₃ with sessions := r₃.sessions.insert id ⟨2, 10⟩, opened := 3 }
  let sent₁ : List Relayed := [⟨first, 0, [22]⟩]
  let sent₂ : List Relayed := sent₁ ++ [⟨id, 1, [22]⟩]
  let sent₃ : List Relayed := sent₂ ++ [⟨id, 2, [22]⟩]
  let s : Shared := ⟨r₄.setKeys id keys, 10, [.forgetEach [id]], sent₃⟩
  let t : Shared := ⟨s.relay.forgetKeys id, 10, [], sent₃⟩
  have hfirst : Trace .connected (.idle r) (sending first 0 [22]) ⟨r₁, 0, [], sent₁⟩ :=
    trace_sending rfl rfl [22]
  have hsecond : Trace .connected ⟨r₁, 0, [], sent₁⟩ (sending id 1 [22]) ⟨r₂, 0, [], sent₂⟩ :=
    trace_sending rfl rfl [22]
  have hdrop : [.dropIdle 5 10] = [] ++ Call.dropIdle 5 10 :: [] := rfl
  have hforget : [.forgetEach [first, id]] = [] ++ Call.forgetEach [first, id] :: [] := rfl
  have hclose : Trace .connected ⟨r₂, 0, [], sent₂⟩ [.wait 10, .begin (.dropIdle 5 10),
      .act (.dropIdle 5 10), .act (.forgetEach [first, id])] ⟨r₃, 10, [.forgetEach [id]], sent₂⟩ :=
    .cons .wait <| .cons (.begin rfl) <| .cons (.act hdrop) <| .cons (.act hforget) .nil
  have hreopen : Trace .connected ⟨r₃, 10, [.forgetEach [id]], sent₂⟩ (sending id 2 [22])
      ⟨r₄, 10, [.forgetEach [id]], sent₃⟩ := trace_sending rfl rfl [22]
  have hcalls : [.forgetEach [id], .setKeys id keys] =
      [.forgetEach [id]] ++ Call.setKeys id keys :: [] := rfl
  have hset : Trace .connected ⟨r₄, 10, [.forgetEach [id]], sent₃⟩ [.begin (.setKeys id keys),
      .act (.setKeys id keys)] s := .cons (.begin trivial) <| .cons (.act hcalls) .nil
  have hlast : [.forgetEach [id]] = [] ++ Call.forgetEach [id] :: [] := rfl
  have hdone : [.forgetEach []] = [] ++ Call.forgetEach [] :: [] := rfl
  have hfinish : Trace .connected s [.act (.forgetEach [id]), .act (.forgetEach [])] t :=
    .cons (.act hlast) <| .cons (.act hdone) .nil
  have hlost : t.relay.keysOf? id = none := by decide
  refine ⟨s, t, (((hfirst.append hsecond).append hclose).append hreopen).append hset, by decide,
    by decide, hfinish, rfl, by decide, hlost, ?_⟩
  intro hkeeps
  exact nomatch (hkeeps _ _ hfinish (by simp [Event.Rekeys])).symm.trans hlost

end Shared

end MediaSocket.Relay
