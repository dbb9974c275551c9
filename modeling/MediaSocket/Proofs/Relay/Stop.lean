import MediaSocket.Relay.Interleaving
import MediaSocket.Proofs.Relay.Sessions

/-! A stopped relay stays without sessions if and only if no call of `send` had found it open when it was
closed: `send` looks at the flag first and takes the sessions afterwards. -/

namespace MediaSocket.Relay

variable {net : Network} {now : Time}

/-! ### A step of one call -/

theorem openSession_eq_ok {r r' : Relay} {id : AssociationId} {socket : Nat}
    (h : r.openSession net id now = .ok (r', socket)) :
    ∃ s opened, r.opened ≤ opened ∧ opened ≤ r.opened + 1 ∧
      r' = { r with sessions := r.sessions.insert id s, opened } := by
  obtain ⟨opened, joins, rfl⟩ := openSession_joins h
  cases joins with
  | found hs => exact ⟨_, r.opened, Nat.le_refl _, Nat.le_succ _, rfl⟩
  | opens hnone => exact ⟨_, r.opened + 1, Nat.le_succ _, Nat.le_refl _, rfl⟩

theorem openSession_of_empty {r : Relay} (hempty : r.sessions = .empty) (hreaches : r.Reaches net)
    (id : AssociationId) (now : Time) :
    r.openSession net id now =
      .ok ({ r with sessions := r.sessions.insert id ⟨r.opened, now⟩, opened := r.opened + 1 },
        r.opened) := by
  have hnone : r.sessions.get? id = none := by
    rw [hempty]
    rfl
  rw [openSession, hnone]
  exact if_pos (by rw [hreaches.binds, hreaches.connects]; rfl)

/-- No step opens a closed relay, turns it to another server, or takes an opened socket back. -/
theorem Call.step_keeps (c : Call) (net : Network) (now : Time) (r : Relay) :
    (c.step net now r).1.server = r.server ∧ r.opened ≤ (c.step net now r).1.opened ∧
      (r.closed = true → (c.step net now r).1.closed = true) := by
  cases c with
  | join id record =>
    rw [step]
    cases hsession : r.openSession net id now with
    | error e => exact ⟨rfl, Nat.le_refl _, fun h => h⟩
    | ok result =>
      obtain ⟨r', socket⟩ := result
      obtain ⟨s, opened, hle, -, rfl⟩ := openSession_eq_ok hsession
      exact ⟨rfl, hle, fun h => h⟩
  | forgetEach ids => cases ids <;> exact ⟨rfl, Nat.le_refl _, fun h => h⟩
  | close =>
    rw [step]
    split
    · exact ⟨rfl, Nat.le_refl _, fun h => h⟩
    · exact ⟨rfl, Nat.le_refl _, fun _ => rfl⟩
  | _ => exact ⟨rfl, Nat.le_refl _, fun h => h⟩

theorem Call.closed_step_close (net : Network) (now : Time) (r : Relay) :
    (Call.close.step net now r).1.closed = true := by
  rw [step]
  split
  · assumption
  · rfl

theorem Call.next_of_step {c c' : Call} {r : Relay} (h : (c.step net now r).2.1 = some c') :
    Next r c c' := by
  cases c with
  | look id record =>
    rw [step] at h
    cases hclosed : r.closed with
    | true =>
      rw [if_pos hclosed] at h
      exact nomatch h
    | false =>
      rw [if_neg (Bool.eq_false_iff.1 hclosed)] at h
      cases h
      exact .look hclosed
  | join id record =>
    rw [step] at h
    split at h
    · cases h
      exact .join
    · exact nomatch h
  | forget id =>
    cases h
    exact .forget
  | dropIdle maxIdle began =>
    cases h
    exact .dropIdle
  | forgetEach ids =>
    cases ids with
    | nil => exact nomatch h
    | cons id ids =>
      cases h
      exact .forgetEach
  | close =>
    rw [step] at h
    cases hclosed : r.closed with
    | true =>
      rw [if_pos hclosed] at h
      exact nomatch h
    | false =>
      rw [if_neg (Bool.eq_false_iff.1 hclosed)] at h
      cases h
      exact .close hclosed
  | dropSessions =>
    cases h
    exact .dropSessions
  | _ => exact nomatch h

/-- Only the call that closes the relay goes on to stop it. -/
theorem Call.stops_of_step {c c' : Call} {r : Relay} (h : (c.step net now r).2.1 = some c')
    (hstops : c'.stops = true) : c.stops = true ∨ c = .close ∧ r.closed = false := by
  cases next_of_step h with
  | close hopen => exact .inr ⟨rfl, hopen⟩
  | dropSessions => exact .inl rfl
  | _ => exact nomatch hstops

/-- Once the relay is closed, a step opens at most the socket and sends at most the record that its call
was admitted for, and admits no call. -/
theorem Call.step_bounds {r : Relay} (hclosed : r.closed = true) (c : Call) (net : Network)
    (now : Time) :
    (c.step net now r).1.opened + (c.step net now r).2.1.toList.countP Call.joins ≤
        r.opened + c.joins.toNat ∧
      (c.step net now r).2.2.length + (c.step net now r).2.1.toList.countP Call.admitted ≤
        c.admitted.toNat := by
  cases c with
  | look id record =>
    rw [step, if_pos hclosed]
    exact ⟨Nat.le_refl _, Nat.le_refl _⟩
  | join id record =>
    rw [step]
    cases hsession : r.openSession net id now with
    | error e => exact ⟨Nat.le_succ _, Nat.zero_le _⟩
    | ok result =>
      obtain ⟨r', socket⟩ := result
      obtain ⟨s, opened, -, hopened, rfl⟩ := openSession_eq_ok hsession
      exact ⟨hopened, Nat.le_refl _⟩
  | write id socket record =>
    rw [step]
    split
    · exact ⟨Nat.le_refl _, Nat.le_refl _⟩
    · exact ⟨Nat.le_refl _, Nat.zero_le _⟩
  | forgetEach ids => cases ids <;> exact ⟨Nat.le_refl _, Nat.le_refl _⟩
  | close =>
    rw [step, if_pos hclosed]
    exact ⟨Nat.le_refl _, Nat.le_refl _⟩
  | _ => exact ⟨Nat.le_refl _, Nat.le_refl _⟩

theorem Call.sessions_step_eq_empty {r : Relay} {c : Call} (hc : c.joins = false)
    (h : r.sessions = .empty ∨ c = .dropSessions) (net : Network) (now : Time) :
    (c.step net now r).1.sessions = .empty := by
  obtain h | rfl := h
  · cases c with
    | join id record => exact nomatch hc
    | drop id =>
      rw [step, dropSession, h]
      rfl
    | dropIdle maxIdle began =>
      rw [step, Relay.dropIdle, h]
      rfl
    | forgetEach ids => cases ids <;> exact h
    | close =>
      rw [step]
      split <;> exact h
    | dropSessions => rfl
    | _ => exact h
  · rfl

theorem Call.admitted_of_joins (c : Call) (h : c.joins = true) : c.admitted = true := by
  cases c with
  | join id record => rfl
  | _ => exact nomatch h

theorem Call.joins_eq_false {c : Call} (h : c.admitted = false) : c.joins = false := by
  cases hjoins : c.joins with
  | false => rfl
  | true => exact (c.admitted_of_joins hjoins).symm.trans h

theorem Call.Begins.stops_eq_false {c : Call} (h : c.Begins now) : c.stops = false := by
  cases c with
  | dropSessions => exact h.elim
  | detach => exact h.elim
  | _ => rfl

theorem Call.Begins.admitted_eq_false {c : Call} (h : c.Begins now) : c.admitted = false := by
  cases c with
  | join id record => exact h.elim
  | write id socket record => exact h.elim
  | _ => rfl

/-- Once the relay is closed, a call that was not admitted opens nothing, sends nothing and is not
admitted any more. -/
theorem Call.step_sealed {r : Relay} (hclosed : r.closed = true) {c : Call}
    (hc : c.admitted = false) (net : Network) (now : Time) :
    (c.step net now r).1.opened = r.opened ∧ (c.step net now r).2.2 = [] ∧
      ∀ c', (c.step net now r).2.1 = some c' → c'.admitted = false := by
  obtain ⟨hopened, hsent⟩ := c.step_bounds hclosed net now
  obtain ⟨-, hle, -⟩ := c.step_keeps net now r
  rw [Call.joins_eq_false hc, Bool.toNat_false] at hopened
  rw [hc, Bool.toNat_false] at hsent
  refine ⟨by omega, List.eq_nil_of_length_eq_zero (by omega), fun c' hnext => ?_⟩
  rw [hnext, Option.toList_some, List.countP_singleton] at hsent
  cases hc' : c'.admitted with
  | false => rfl
  | true =>
    rw [if_pos hc'] at hsent
    omega

/-! ### Runs -/

namespace Shared

variable {s t : Shared} {e : Event}

/-- An event either leaves the relay alone and lets a call begin at most, or is a step of a call. -/
theorem Step.inv (step : Step net s e t) :
    (t.relay = s.relay ∧ t.sent = s.sent ∧ (∀ c ∈ s.calls, c ∈ t.calls) ∧
      ∀ c ∈ t.calls, c ∈ s.calls ∨ ∃ now, c.Begins now) ∨
    ∃ c ∈ s.calls, t.relay = (c.step net s.now s.relay).1 ∧
      t.sent = s.sent ++ (c.step net s.now s.relay).2.2 ∧
      (∀ c' ∈ s.calls, c' = c ∨ c' ∈ t.calls) ∧
      ∀ c' ∈ t.calls, c' ∈ s.calls ∨ (c.step net s.now s.relay).2.1 = some c' := by
  cases step with
  | @begin c hbegins =>
    refine .inl ⟨rfl, rfl, fun c' hc' => List.mem_append_left _ hc', ?_⟩
    intro c' hc'
    rcases List.mem_append.1 hc' with hc' | hc'
    · exact .inl hc'
    · exact .inr ⟨s.now, List.mem_singleton.1 hc' ▸ hbegins⟩
  | @act front back c hcalls =>
    refine .inr ⟨c, by simp [hcalls], rfl, rfl, ?_, ?_⟩
    · intro c' hc'
      rw [hcalls, List.mem_append, List.mem_cons] at hc'
      simp only [List.mem_append]
      tauto
    · intro c' hc'
      simp only [List.mem_append, Option.mem_toList] at hc'
      rw [hcalls, List.mem_append, List.mem_cons]
      tauto
  | wait => exact .inl ⟨rfl, rfl, fun c hc => hc, fun c hc => .inl hc⟩

/-- What every event keeps, every run keeps. -/
theorem Runs.preserves {P : Shared → Prop} (hstep : ∀ {s t e}, P s → Step net s e t → P t)
    (h : P s) (runs : Runs net s t) : P t := by
  induction runs with
  | refl => exact h
  | tail _ step ih =>
    obtain ⟨e, step⟩ := step
    exact hstep ih step

/-- What is true of every relay that nobody has called yet, and stays true. -/
structure Sound (r : Relay) (s : Shared) : Prop where
  server : s.relay.server = r.server
  stopping : ∀ c ∈ s.calls, c.stops = true → s.relay.closed = true

theorem sound_idle (r : Relay) : (idle r).Sound r :=
  ⟨rfl, fun _ hc => absurd hc List.not_mem_nil⟩

theorem Sound.step {r : Relay} (h : s.Sound r) (step : Step net s e t) : t.Sound r := by
  obtain ⟨hrelay, -, -, hcalls⟩ | ⟨c, hc, hrelay, -, -, hcalls⟩ := step.inv
  · refine ⟨hrelay ▸ h.server, fun c hc hstops => ?_⟩
    rw [hrelay]
    obtain hc | ⟨now, hbegins⟩ := hcalls c hc
    · exact h.stopping c hc hstops
    · exact nomatch hstops.symm.trans hbegins.stops_eq_false
  · obtain ⟨hserver, -, hclosed⟩ := c.step_keeps net s.now s.relay
    refine ⟨hrelay ▸ hserver.trans h.server, fun c' hc' hstops => ?_⟩
    rw [hrelay]
    obtain hc' | hnext := hcalls c' hc'
    · exact hclosed (h.stopping c' hc' hstops)
    · obtain hstops | ⟨rfl, -⟩ := Call.stops_of_step hnext hstops
      · exact hclosed (h.stopping c hc hstops)
      · exact Call.closed_step_close ..

theorem Returned.step (h : s.Returned) (step : Step net s e t) : t.Returned := by
  obtain ⟨hrelay, -, -, hcalls⟩ | ⟨c, hc, hrelay, -, -, hcalls⟩ := step.inv
  · refine ⟨hrelay ▸ h.closed, fun c hc => ?_⟩
    obtain hc | ⟨now, hbegins⟩ := hcalls c hc
    · exact h.returned c hc
    · exact hbegins.stops_eq_false
  · refine ⟨hrelay ▸ (c.step_keeps net s.now s.relay).2.2 h.closed, fun c' hc' => ?_⟩
    obtain hc' | hnext := hcalls c' hc'
    · exact h.returned c' hc'
    · cases hstops : c'.stops with
      | false => rfl
      | true =>
        obtain hstops | ⟨-, hopen⟩ := Call.stops_of_step hnext hstops
        · exact nomatch hstops.symm.trans (h.returned c hc)
        · exact nomatch hopen.symm.trans h.closed

/-- The relay is closed, and no call under way had found it open. -/
structure Sealed (s : Shared) : Prop where
  closed : s.relay.closed = true
  none_admitted : ∀ c ∈ s.calls, c.admitted = false
  cleared : .dropSessions ∉ s.calls → s.relay.sessions = .empty

theorem Sealed.step (h : s.Sealed) (step : Step net s e t) :
    t.Sealed ∧ t.relay.opened = s.relay.opened ∧ t.sent = s.sent := by
  obtain ⟨hrelay, hsent, hkept, hcalls⟩ | ⟨c, hc, hrelay, hsent, hkept, hcalls⟩ := step.inv
  · refine ⟨⟨hrelay ▸ h.closed, fun c hc => ?_, fun hdropped => ?_⟩, hrelay ▸ rfl, hsent⟩
    · obtain hc | ⟨now, hbegins⟩ := hcalls c hc
      · exact h.none_admitted c hc
      · exact hbegins.admitted_eq_false
    · rw [hrelay]
      exact h.cleared fun hmem => hdropped (hkept _ hmem)
  · have hadmitted := h.none_admitted c hc
    obtain ⟨hopened, hnothing, hnext⟩ := Call.step_sealed h.closed hadmitted net s.now
    refine ⟨⟨hrelay ▸ (c.step_keeps net s.now s.relay).2.2 h.closed, fun c' hc' => ?_,
      fun hdropped => ?_⟩, hrelay ▸ hopened, by rw [hsent, hnothing, List.append_nil]⟩
    · obtain hc' | hc' := hcalls c' hc'
      · exact h.none_admitted c' hc'
      · exact hnext c' hc'
    · rw [hrelay]
      refine Call.sessions_step_eq_empty (Call.joins_eq_false hadmitted) ?_ net s.now
      -- a `stop` that is about to drop the sessions either does so now or is still under way
      by_cases hmem : .dropSessions ∈ s.calls
      · obtain hmem | hmem := hkept _ hmem
        · exact .inr hmem.symm
        · exact absurd hmem hdropped
      · exact .inl (h.cleared hmem)

theorem Sealed.runs (h : s.Sealed) (runs : Runs net s t) :
    t.Sealed ∧ t.relay.opened = s.relay.opened ∧ t.sent = s.sent := by
  refine runs.preserves
    (P := fun u => u.Sealed ∧ u.relay.opened = s.relay.opened ∧ u.sent = s.sent) ?_ ⟨h, rfl, rfl⟩
  rintro u v e ⟨hsealed, hopened, hsent⟩ step
  obtain ⟨hsealed, hopened', hsent'⟩ := hsealed.step step
  exact ⟨hsealed, hopened'.trans hopened, hsent'.trans hsent⟩

theorem Sealed.sessions_eq_empty (h : s.Sealed) (hreturned : s.Returned) :
    s.relay.sessions = .empty :=
  h.cleared fun hmem => nomatch hreturned.returned _ hmem

theorem Sealed.final (h : s.Sealed) (hreturned : s.Returned) : s.Final net := by
  intro t runs
  obtain ⟨hsealed, hopened, hsent⟩ := h.runs runs
  exact ⟨hsealed.sessions_eq_empty (runs.preserves .step hreturned), hopened, hsent⟩

/-- How many sockets are opened and how many records are sent in the end at most. -/
structure Bounded (opened sent : Nat) (s : Shared) : Prop where
  closed : s.relay.closed = true
  opened_le : s.relay.opened + s.calls.countP Call.joins ≤ opened
  sent_le : s.sent.length + s.calls.countP Call.admitted ≤ sent

theorem countP_cons_toNat {α : Type} (p : α → Bool) (a : α) (l : List α) :
    (a :: l).countP p = l.countP p + (p a).toNat := by
  rw [List.countP_cons]
  cases p a <;> rfl

theorem Bounded.step {opened sent : Nat} (h : s.Bounded opened sent) (step : Step net s e t) :
    t.Bounded opened sent := by
  cases step with
  | @begin c hbegins =>
    have hadmitted := hbegins.admitted_eq_false
    refine ⟨h.closed, ?_, ?_⟩
    · have hle := h.opened_le
      simpa [List.countP_append, Call.joins_eq_false hadmitted] using hle
    · have hle := h.sent_le
      simpa [List.countP_append, hadmitted] using hle
  | @act front back c hcalls =>
    have hopened := h.opened_le
    have hsent := h.sent_le
    obtain ⟨hstepOpened, hstepSent⟩ := c.step_bounds h.closed net s.now
    rw [hcalls, List.countP_append, countP_cons_toNat] at hopened hsent
    refine ⟨(c.step_keeps net s.now s.relay).2.2 h.closed, ?_, ?_⟩
    · simp only [List.countP_append]
      omega
    · simp only [List.countP_append, List.length_append]
      omega
  | wait => exact ⟨h.closed, h.opened_le, h.sent_le⟩

/-- An admitted call opens a socket or sends a record whenever it goes on. -/
theorem not_final_of_admitted (hempty : s.relay.sessions = .empty)
    (hreaches : s.relay.Reaches net) {c : Call} (hc : c ∈ s.calls) (hadmitted : c.admitted = true)
    (htakes : ∀ id socket record, c = .write id socket record →
      s.relay.transmits net record = true) : ¬s.Final net := by
  intro hfinal
  obtain ⟨front, back, hcalls⟩ := List.append_of_mem hc
  obtain ⟨-, hopened, hsent⟩ := hfinal _ (.single ⟨.act c, .act hcalls⟩)
  cases c with
  | join id record =>
    rw [Call.step, openSession_of_empty hempty hreaches] at hopened
    exact Nat.succ_ne_self _ hopened
  | write id socket record =>
    rw [Call.step, if_pos (htakes id socket record rfl)] at hsent
    exact List.cons_ne_nil _ _ (List.append_right_eq_self.1 hsent)
  | _ => exact nomatch hadmitted

theorem eq_of_close (hclose : Step net s (.act .close) t) (hopen : s.relay.closed = false) :
    ∃ front back, s.calls = front ++ .close :: back ∧
      t = { s with relay := s.relay.close, calls := front ++ [.dropSessions] ++ back } := by
  cases hclose with
  | @act front back _ hcalls =>
    refine ⟨front, back, hcalls, ?_⟩
    simp [Call.step, hopen]

theorem sealed_of_close (hclose : Step net s (.act .close) t) (hopen : s.relay.closed = false)
    (hnone : ∀ c ∈ s.calls, c.admitted = false) : t.Sealed := by
  obtain ⟨front, back, hcalls, rfl⟩ := eq_of_close hclose hopen
  refine ⟨rfl, fun c hc => ?_, fun hdropped => absurd (by simp) hdropped⟩
  rw [List.append_assoc, List.mem_append, List.singleton_append, List.mem_cons] at hc
  rw [hcalls] at hnone
  obtain hc | rfl | hc := hc
  · exact hnone c (List.mem_append_left _ hc)
  · rfl
  · exact hnone c (List.mem_append_right _ (List.mem_cons_of_mem _ hc))

theorem bounded_of_close (hclose : Step net s (.act .close) t) (hopen : s.relay.closed = false) :
    t.Bounded (s.relay.opened + s.calls.countP Call.joins)
      (s.sent.length + s.calls.countP Call.admitted) := by
  obtain ⟨front, back, hcalls, rfl⟩ := eq_of_close hclose hopen
  refine ⟨rfl, ?_, ?_⟩
  · rw [hcalls]
    simp [Relay.close, Call.joins]
  · rw [hcalls]
    simp [Call.admitted]

/-- A call of `stop` that has closed the relay can return before any other call goes on. -/
theorem exists_returned {r : Relay} (hsound : s.Sound r) (hopen : s.relay.closed = false)
    (hclose : Step net s (.act .close) t) :
    ∃ u, Runs net t u ∧ u.Returned ∧ u.relay.sessions = .empty ∧ u.relay.server = s.relay.server ∧
      ∀ c ∈ s.calls, c ≠ .close → c ∈ u.calls := by
  obtain ⟨front, back, hcalls, rfl⟩ := eq_of_close hclose hopen
  have hrest : ∀ c ∈ front ++ [] ++ back, c ∈ s.calls := by
    intro c hc
    rw [List.append_nil, List.mem_append] at hc
    rw [hcalls, List.mem_append, List.mem_cons]
    tauto
  have hnone : ∀ c ∈ front ++ [] ++ back, c.stops = false := by
    intro c hc
    cases hstops : c.stops with
    | false => rfl
    | true => exact nomatch hopen.symm.trans (hsound.stopping c (hrest c hc) hstops)
  -- only the two steps that `stop` has left are taken: it drops the sessions and returns
  have hdrop : Step net
      { s with relay := s.relay.close, calls := front ++ [.dropSessions] ++ back }
      (.act .dropSessions) _ := .act (List.append_cons ..).symm
  have hdetach : Step net
      ⟨s.relay.close.dropSessions, s.now, front ++ [.detach] ++ back, s.sent ++ []⟩
      (.act .detach) _ := .act (List.append_cons ..).symm
  have hruns : Runs net _ _ := (Relation.ReflTransGen.single ⟨_, hdrop⟩).tail ⟨_, hdetach⟩
  refine ⟨_, hruns, ⟨rfl, hnone⟩, rfl, rfl, ?_⟩
  intro c hc hne
  rw [hcalls, List.mem_append, List.mem_cons] at hc
  change c ∈ front ++ [] ++ back
  rw [List.append_nil, List.mem_append]
  tauto

/-- To stop a relay is final if and only if no call of `send` under way had found it open when it was
closed. Each call that had can still open one socket and send one record, and no other call can. -/
theorem stop_final_iff {r : Relay} (hreaches : r.Reaches net) (hruns : Runs net (.idle r) s)
    (hopen : s.relay.closed = false)
    (htakes : ∀ id socket record, .write id socket record ∈ s.calls →
      r.transmits net record = true)
    (hclose : Step net s (.act .close) t) :
    ((∀ u, Runs net t u → u.Returned → u.Final net) ↔ ∀ c ∈ s.calls, c.admitted = false) ∧
      ∀ u, Runs net t u →
        u.relay.opened ≤ s.relay.opened + s.calls.countP Call.admitted ∧
        u.sent.length ≤ s.sent.length + s.calls.countP Call.admitted := by
  have hsound : s.Sound r := hruns.preserves .step (sound_idle r)
  refine ⟨⟨?_, ?_⟩, ?_⟩
  · intro hfinal c hc
    obtain ⟨u, hreturns, hreturned, hempty, hserver, hcalls⟩ := exists_returned hsound hopen hclose
    have hserver := hserver.trans hsound.server
    cases hadmitted : c.admitted with
    | false => rfl
    | true =>
      have hmem : c ∈ u.calls := hcalls c hc (by rintro rfl; exact Bool.false_ne_true hadmitted)
      refine absurd (hfinal u hreturns hreturned) ?_
      refine not_final_of_admitted hempty (hreaches.of_server_eq hserver) hmem hadmitted ?_
      rintro id socket record rfl
      rw [transmits, localAddress, hserver]
      exact htakes id socket record hc
  · intro hnone u hreturns hreturned
    exact ((sealed_of_close hclose hopen hnone).runs hreturns).1.final hreturned
  · intro u hreturns
    have hbounded := hreturns.preserves .step (bounded_of_close hclose hopen)
    have hopened := hbounded.opened_le
    have hsent := hbounded.sent_le
    have hjoins : s.calls.countP Call.joins ≤ s.calls.countP Call.admitted :=
      List.countP_mono_left fun c _ hjoins => c.admitted_of_joins hjoins
    omega

theorem Trace.runs {events : List Event} (h : Trace net s events t) : Runs net s t := by
  induction h with
  | nil => exact .refl
  | cons step _ ih => exact .head ⟨_, step⟩ ih

/-- `stop` comes while a call of `send` has yet to look whether the relay is closed. -/
theorem stop_final_iff_looking :
    let r : Relay := ⟨.v4 .loopback 5000, .empty, .empty, false, false, 0⟩
    let look : Call := .look (.ofNat 1) [22]
    let s : Shared := ⟨r, 0, [look, .close], []⟩
    ∃ t, Trace .connected (.idle r) [.begin look, .begin .close] s ∧
      Step .connected s (.act .close) t ∧
      (∀ u, Runs .connected t u → u.Returned → u.Final .connected) ∧
      ∀ u, Runs .connected t u → u.relay.opened ≤ 0 ∧ u.sent.length ≤ 0 := by
  intro r look s
  have htrace : Trace .connected (.idle r) [.begin look, .begin .close] s :=
    .cons (.begin trivial) (.cons (.begin trivial) .nil)
  have hcalls : s.calls = [look] ++ .close :: [] := rfl
  have hclose : Step .connected s (.act .close) _ := .act hcalls
  obtain ⟨hfinal, hbounds⟩ := stop_final_iff ⟨rfl, rfl⟩ htrace.runs rfl
    (fun id socket record h => by simp [s, look] at h) hclose
  exact ⟨_, htrace, hclose, hfinal.2 (by decide), hbounds⟩

/-- A call of `send` looks at the flag, `stop` runs from its beginning to its end, and only then does the
call go on. It opens a socket that nobody closes any more, and sends its record. -/
theorem stop_not_final_between :
    let r : Relay := ⟨.v4 .loopback 5000, .empty, .empty, false, false, 0⟩
    let id : AssociationId := .ofNat 1
    ∃ s t,
      Trace .connected (.idle r)
        [.begin (.look id [22]), .begin .close, .act (.look id [22]), .act .close,
          .act .dropSessions, .act .detach] s ∧
      s.Returned ∧ s.relay.sessions = .empty ∧
      Trace .connected s [.act (.join id [22]), .act (.write id 0 [22])] t ∧
      t.relay.sessions.contains id = true ∧ t.relay.opened = s.relay.opened + 1 ∧
      t.sent = s.sent ++ [⟨id, 0, [22]⟩] ∧ ¬s.Final .connected := by
  intro r id
  let look : Call := .look id [22]
  let join : Call := .join id [22]
  let write : Call := .write id 0 [22]
  let s : Shared := ⟨(r.close.dropSessions).attach false, 0, [join], []⟩
  let t : Shared :=
    ⟨{ s.relay with sessions := s.relay.sessions.insert id ⟨0, 0⟩, opened := 1 }, 0, [],
      [⟨id, 0, [22]⟩]⟩
  have hlook : [look, .close] = [] ++ look :: [.close] := rfl
  have hclose : [join, .close] = [join] ++ .close :: [] := rfl
  have hdrop : [join, .dropSessions] = [join] ++ .dropSessions :: [] := rfl
  have hdetach : [join, .detach] = [join] ++ .detach :: [] := rfl
  have hjoin : [join] = [] ++ join :: [] := rfl
  have hwrite : [write] = [] ++ write :: [] := rfl
  have hstop : Trace .connected (.idle r) [.begin look, .begin .close, .act look, .act .close,
      .act .dropSessions, .act .detach] s :=
    .cons (.begin trivial) <| .cons (.begin trivial) <| .cons (.act hlook) <|
      .cons (.act hclose) <| .cons (.act hdrop) <| .cons (.act hdetach) .nil
  have hsend : Trace .connected s [.act join, .act write] t :=
    .cons (.act hjoin) <| .cons (.act hwrite) .nil
  refine ⟨s, t, hstop, ⟨rfl, by decide⟩, rfl, hsend, by decide, rfl, rfl, ?_⟩
  intro hfinal
  exact Nat.one_ne_zero (hfinal t hsend.runs).2.1

end Shared

end MediaSocket.Relay
