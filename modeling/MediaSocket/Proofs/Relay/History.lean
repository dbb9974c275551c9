import MediaSocket.Relay.History
import MediaSocket.Proofs.Table

/-! After any calls, one after the other, a relay has exactly the sessions that the list of them says.
Every call is followed for one association at a time. -/

namespace MediaSocket.Relay

variable {net : Network} {id : AssociationId}

/-! ### Single operations -/

theorem keysOf?_forgetKeys (r : Relay) (id x : AssociationId) :
    (r.forgetKeys id).keysOf? x = if x = id then none else r.keysOf? x :=
  Table.get?_erase ..

theorem forgetAll_eq (ids : List AssociationId) (r : Relay) :
    ids.foldl forgetKeys r = { r with keys := ids.foldl Table.erase r.keys } := by
  induction ids generalizing r with
  | nil => rfl
  | cons id ids ih => exact ih (r.forgetKeys id)

theorem keysOf?_forgetAll (ids : List AssociationId) (r : Relay) (x : AssociationId) :
    (ids.foldl forgetKeys r).keysOf? x = if x ∈ ids then none else r.keysOf? x := by
  induction ids generalizing r with
  | nil => rfl
  | cons id ids ih =>
    rw [List.foldl_cons, ih, keysOf?_forgetKeys]
    by_cases hx : x = id
    · simp [hx]
    · simp [hx]

theorem mem_idleIds {r : Relay} {maxIdle : Span} {now : Time} :
    id ∈ r.idleIds maxIdle now ↔
      ∃ s, r.sessions.get? id = some s ∧ maxIdle ≤ now - s.lastSent := by
  rw [idleIds, Table.mem_keys_iff, Table.contains_iff]
  simp only [Table.get?_filter, Option.filter_eq_some_iff, isIdle, decide_eq_true_iff]

theorem length_idleIds (r : Relay) (maxIdle : Span) (now : Time) :
    (r.idleIds maxIdle now).length =
      {id | ∃ s, r.sessions.get? id = some s ∧ maxIdle ≤ now - s.lastSent}.ncard := by
  have hsize := Table.size_filter r.sessions fun e => isIdle maxIdle now e.2
  simp only [isIdle, decide_eq_true_iff] at hsize
  rw [← hsize, idleIds, Table.keys, List.length_map]
  rfl

theorem get?_sessions_closeSession (r : Relay) (id x : AssociationId) :
    (r.closeSession id).1.sessions.get? x = if x = id then none else r.sessions.get? x :=
  Table.get?_erase ..

theorem keysOf?_closeSession (r : Relay) (id x : AssociationId) :
    (r.closeSession id).1.keysOf? x = if x = id then none else r.keysOf? x :=
  keysOf?_forgetKeys ..

theorem get?_sessions_closeIdle (r : Relay) (maxIdle : Span) (now : Time) (x : AssociationId) :
    (r.closeIdle maxIdle now).1.sessions.get? x =
      (r.sessions.get? x).filter fun s => now - s.lastSent < maxIdle := by
  rw [closeIdle, forgetAll_eq]
  simp only [dropIdle, Table.get?_filter, isIdle, ← Nat.not_le, decide_not]

theorem keysOf?_closeIdle (r : Relay) (maxIdle : Span) (now : Time) (x : AssociationId) :
    (r.closeIdle maxIdle now).1.keysOf? x =
      if x ∈ r.idleIds maxIdle now then none else r.keysOf? x := by
  rw [closeIdle, keysOf?_forgetAll]
  rfl

theorem openSession_of_reaches {r : Relay} (h : r.Reaches net) (id : AssociationId) (now : Time) :
    ∃ socket opened, r.openSession net id now =
      .ok ({ r with sessions := r.sessions.insert id ⟨socket, now⟩, opened }, socket) := by
  rw [openSession]
  cases r.sessions.get? id with
  | some s => exact ⟨s.socket, r.opened, rfl⟩
  | none => exact ⟨r.opened, r.opened + 1, by simp only [h.binds, h.connects, Bool.and_self, if_pos]⟩

theorem carry_of_closed {r : Relay} (h : r.closed = true) (net : Network) (call : TunnelCall)
    (now : Time) : r.carry net call now = (r, .error stopped) := if_pos h

/-- An open relay has a session for the association after a record, whether the network takes the
record or not. -/
theorem carry_of_open {r : Relay} (hreaches : r.Reaches net) (hopen : r.closed = false)
    (call : TunnelCall) (now : Time) :
    ∃ socket opened, (r.carry net call now).1 =
      { r with sessions := r.sessions.insert call.id ⟨socket, now⟩, opened } := by
  obtain ⟨socket, opened, hsession⟩ := openSession_of_reaches hreaches call.id now
  refine ⟨socket, opened, ?_⟩
  rw [carry, send, if_neg (Bool.eq_false_iff.1 hopen), hsession]
  dsimp only
  split <;> rfl

theorem carry_keeps {r : Relay} (hreaches : r.Reaches net) (call : TunnelCall) (now : Time) :
    (r.carry net call now).1.server = r.server ∧ (r.carry net call now).1.closed = r.closed := by
  cases hclosed : r.closed with
  | true =>
    rw [carry_of_closed hclosed]
    exact ⟨rfl, hclosed⟩
  | false =>
    obtain ⟨socket, opened, hcarry⟩ := carry_of_open hreaches hclosed call now
    rw [hcarry]
    exact ⟨rfl, hclosed⟩

/-! ### One call, seen from one association -/

/-- When an association that has a session last sent a record. -/
def lastSent? (r : Relay) (id : AssociationId) : Option Time :=
  (r.sessions.get? id).map Session.lastSent

/-- What becomes of that in a call. -/
def lastSentAfter (id : AssociationId) (closed : Bool) (last : Option Time) :
    Request → Option Time
  | .carry call now => if call.id = id ∧ closed = false then some now else last
  | .setKeys .. => last
  | .closeSession x => if x = id then none else last
  | .closeIdle maxIdle now => last.filter fun sent => now - sent < maxIdle
  | .stop => if closed then last else none

theorem server_serve {r : Relay} (hreaches : r.Reaches net) (q : Request) :
    (r.serve net q).server = r.server := by
  cases q with
  | carry call now => exact (carry_keeps hreaches call now).1
  | setKeys x keys => rfl
  | closeSession x => rfl
  | closeIdle maxIdle now =>
    rw [serve, closeIdle, forgetAll_eq]
    rfl
  | stop =>
    rw [serve, stop]
    split <;> rfl

theorem closed_serve {r : Relay} (hreaches : r.Reaches net) (q : Request) :
    (r.serve net q).closed = true ↔ r.closed = true ∨ q = .stop := by
  cases q with
  | carry call now => simp [serve, carry_keeps hreaches call now]
  | setKeys x keys => simp [serve, setKeys]
  | closeSession x => simp [serve, closeSession, dropSession, forgetKeys]
  | closeIdle maxIdle now => simp [serve, closeIdle, forgetAll_eq, dropIdle]
  | stop =>
    rw [serve, stop]
    split <;> simp [close, dropSessions, attach, *]

theorem lastSent?_serve {r : Relay} (hreaches : r.Reaches net) (q : Request) (id : AssociationId) :
    (r.serve net q).lastSent? id = lastSentAfter id r.closed (r.lastSent? id) q := by
  cases q with
  | carry call now =>
    rw [serve, lastSentAfter]
    cases hclosed : r.closed with
    | true => simp [carry_of_closed hclosed]
    | false =>
      obtain ⟨socket, opened, hcarry⟩ := carry_of_open hreaches hclosed call now
      rw [hcarry]
      simp only [lastSent?, Table.get?_insert, and_true]
      split <;> rfl
  | setKeys x keys => rfl
  | closeSession x =>
    simp only [serve, lastSent?, get?_sessions_closeSession, lastSentAfter, eq_comm]
    split <;> rfl
  | closeIdle maxIdle now =>
    rw [serve, lastSent?, get?_sessions_closeIdle, lastSentAfter, lastSent?]
    cases r.sessions.get? id <;> simp [Option.filter, apply_ite]
  | stop =>
    rw [serve, stop, lastSentAfter]
    split <;> rfl

/-! ### All calls -/

/-- When a session last sent a record is what the requests say about it. -/
def Describes (id : AssociationId) (requests : List Request) : Option Time → Prop
  | none => ¬HasSession id requests
  | some sent => HasSession id requests ∧ latest? (Request.carried? id) requests = some sent

section Describes

variable {requests : List Request}

theorem hasSession_concat {q : Request} :
    HasSession id (requests ++ [q]) ↔
      .stop ∉ requests ∧ .stop ≠ q ∧
        (Carries id q ∨ Lasts (Carries id) (Closes id) requests ∧ ¬Closes id requests q) := by
  rw [HasSession, lasts_concat, List.mem_append, List.mem_singleton, not_or, and_assoc]

theorem Describes.eq_none_of_stop {last : Option Time} (h : Describes id requests last)
    (hstop : .stop ∈ requests) : last = none := by
  cases last with
  | none => rfl
  | some sent => exact absurd hstop h.1.1

/-- A request that neither relays a record of the association nor closes its session changes
nothing. -/
theorem Describes.keep {last : Option Time} (h : Describes id requests last) {q : Request}
    (hcarries : ¬Carries id q) (hcarried : q.carried? id = none) (hstop : .stop ≠ q)
    (hcloses : ¬Closes id requests q) : Describes id (requests ++ [q]) last := by
  cases last with
  | none =>
    intro hsession
    obtain ⟨hrunning, -, hsession⟩ := hasSession_concat.1 hsession
    obtain ⟨hlasts, -⟩ := hsession.resolve_left hcarries
    exact h ⟨hrunning, hlasts⟩
  | some sent =>
    obtain ⟨⟨hrunning, hlasts⟩, hsent⟩ := h
    refine ⟨hasSession_concat.2 ⟨hrunning, hstop, .inr ⟨hlasts, hcloses⟩⟩, ?_⟩
    rw [latest?_concat, hcarried, Option.none_or, hsent]

theorem describes_none_of_closes {q : Request} (hcarries : ¬Carries id q)
    (hcloses : Closes id requests q) : Describes id (requests ++ [q]) none := by
  intro hsession
  obtain ⟨-, -, hsession⟩ := hasSession_concat.1 hsession
  exact (hsession.resolve_left hcarries).2 hcloses

theorem describes_none_of_stop {q : Request} (hstop : .stop ∈ requests ++ [q]) :
    Describes id (requests ++ [q]) none :=
  fun hsession => hsession.1 hstop

theorem Describes.carry {last : Option Time} (h : Describes id requests last) {closed : Bool}
    (hclosed : closed = true ↔ .stop ∈ requests) (call : TunnelCall) (now : Time) :
    Describes id (requests ++ [.carry call now]) (lastSentAfter id closed last (.carry call now)) := by
  rw [lastSentAfter]
  by_cases hid : call.id = id
  · cases hopen : closed with
    | true =>
      have hstop := hclosed.1 hopen
      rw [if_neg (by simp), h.eq_none_of_stop hstop]
      exact describes_none_of_stop (List.mem_append_left _ hstop)
    | false =>
      have hrunning : .stop ∉ requests := fun hstop => by simp [hclosed.2 hstop] at hopen
      rw [if_pos ⟨hid, rfl⟩]
      refine ⟨hasSession_concat.2 ⟨hrunning, (nomatch ·), .inl hid⟩, ?_⟩
      rw [latest?_concat, Request.carried?, if_pos hid]
      rfl
  · rw [if_neg fun h => hid h.1]
    exact h.keep hid (if_neg hid) (nomatch ·) fun h => h

theorem Describes.closeIdle {last : Option Time} (h : Describes id requests last) (maxIdle : Span)
    (now : Time) {closed : Bool} :
    Describes id (requests ++ [.closeIdle maxIdle now])
      (lastSentAfter id closed last (.closeIdle maxIdle now)) := by
  cases last with
  | none =>
    intro hsession
    obtain ⟨hrunning, -, hsession⟩ := hasSession_concat.1 hsession
    exact h ⟨hrunning, (hsession.resolve_left fun h => h).1⟩
  | some sent =>
    rw [lastSentAfter, Option.filter_some]
    split
    · rename_i hrecent
      refine h.keep (fun h => h) rfl (nomatch ·) ?_
      rintro ⟨sent', hsent', hidle⟩
      rw [h.2] at hsent'
      cases hsent'
      exact absurd (of_decide_eq_true hrecent) (Nat.not_lt.2 hidle)
    · rename_i hidle
      exact describes_none_of_closes (fun h => h)
        ⟨sent, h.2, Nat.le_of_not_lt fun hlt => hidle (decide_eq_true hlt)⟩

theorem Describes.serve {last : Option Time} (h : Describes id requests last) {closed : Bool}
    (hclosed : closed = true ↔ .stop ∈ requests) (q : Request) :
    Describes id (requests ++ [q]) (lastSentAfter id closed last q) := by
  cases q with
  | carry call now => exact h.carry hclosed call now
  | setKeys x keys => exact h.keep (fun h => h) rfl (nomatch ·) fun h => h
  | closeSession x =>
    rw [lastSentAfter]
    split
    · rename_i hid
      exact describes_none_of_closes (fun h => h) hid
    · rename_i hid
      exact h.keep (fun h => h) rfl (nomatch ·) hid
  | closeIdle maxIdle now => exact h.closeIdle maxIdle now
  | stop =>
    have hnone : lastSentAfter id closed last .stop = none := by
      rw [lastSentAfter]
      split
      · exact h.eq_none_of_stop (hclosed.1 ‹_›)
      · rfl
    rw [hnone]
    exact describes_none_of_stop (List.mem_append_right _ (List.mem_singleton_self _))

end Describes

theorem Reaches.of_server_eq {r r' : Relay} (h : r.Reaches net) (hserver : r'.server = r.server) :
    r'.Reaches net := by
  refine ⟨?_, hserver ▸ h.connects⟩
  rw [localAddress, hserver]
  exact h.binds

theorem serveAll_concat (r : Relay) (net : Network) (requests : List Request) (q : Request) :
    r.serveAll net (requests ++ [q]) = (r.serveAll net requests).serve net q := by
  rw [serveAll, List.foldl_append]
  rfl

/-- What every call of a relay that has just been connected keeps. -/
structure Kept (net : Network) (requests : List Request) (r : Relay) : Prop where
  reaches : r.Reaches net
  closed_iff : r.closed = true ↔ .stop ∈ requests
  describes : ∀ id, Describes id requests (r.lastSent? id)

theorem Kept.serve {requests : List Request} {r : Relay} (h : Kept net requests r) (q : Request) :
    Kept net (requests ++ [q]) (r.serve net q) := by
  refine ⟨h.reaches.of_server_eq (server_serve h.reaches q), ?_, ?_⟩
  · rw [closed_serve h.reaches, h.closed_iff, List.mem_append, List.mem_singleton, @eq_comm _ q]
  · intro id
    rw [lastSent?_serve h.reaches]
    exact (h.describes id).serve h.closed_iff q

theorem kept_connect {servers : List Address} {r : Relay} (hconnect : connect servers = .ok r)
    (hreaches : r.Reaches net) : Kept net [] r := by
  cases servers with
  | nil => exact nomatch hconnect
  | cons server servers =>
    cases hconnect
    exact ⟨hreaches, by simp, fun id h => not_lasts_nil h.2⟩

theorem kept_serveAll {servers : List Address} {r : Relay} (hconnect : connect servers = .ok r)
    (hreaches : r.Reaches net) (requests : List Request) :
    Kept net requests (r.serveAll net requests) := by
  induction requests using List.reverseRecOn with
  | nil => exact kept_connect hconnect hreaches
  | append_singleton requests q ih =>
    rw [serveAll_concat]
    exact ih.serve q

section Kept

variable {requests : List Request} {r : Relay}

theorem Kept.serves (h : Kept net requests r) : Serves requests r := by
  refine ⟨r.sessions.nodup, ?_, ?_, h.closed_iff⟩
  · intro id
    have hdescribes := h.describes id
    rw [Table.contains_iff]
    cases hsession : r.sessions.get? id with
    | none =>
      rw [lastSent?, hsession] at hdescribes
      exact ⟨fun ⟨_, h⟩ => (nomatch h), fun h => absurd h hdescribes⟩
    | some s =>
      rw [lastSent?, hsession] at hdescribes
      exact ⟨fun _ => hdescribes.1, fun _ => ⟨s, rfl⟩⟩
  · intro id s hsession
    have hdescribes := h.describes id
    rw [lastSent?, hsession] at hdescribes
    exact hdescribes.2

theorem Serves.idle_iff (h : Serves requests r) {maxIdle : Span} {now : Time} :
    (∃ s, r.sessions.get? id = some s ∧ maxIdle ≤ now - s.lastSent) ↔
      HasIdleSession id requests maxIdle now := by
  constructor
  · rintro ⟨s, hsession, hidle⟩
    have hsome := (h.contains_iff id).1 (Table.contains_iff.2 ⟨s, hsession⟩)
    exact ⟨hsome, s.lastSent, h.lastSent id s hsession, hidle⟩
  · rintro ⟨hsome, sent, hsent, hidle⟩
    obtain ⟨s, hsession⟩ := Table.contains_iff.1 ((h.contains_iff id).2 hsome)
    cases hsent.symm.trans (h.lastSent id s hsession)
    exact ⟨s, hsession, hidle⟩

theorem Serves.sessionCount_eq (h : Serves requests r) :
    r.sessionCount = {id | HasSession id requests}.ncard := by
  rw [sessionCount, Table.size_eq_ncard]
  simp only [h.contains_iff]

theorem closeSession_closes (r : Relay) (id : AssociationId) :
    (r.closeSession id).1.sessions.contains id = false ∧
      (r.closeSession id).1.keysOf? id = none ∧
      ∀ x, x ≠ id → (r.closeSession id).1.sessions.get? x = r.sessions.get? x ∧
        (r.closeSession id).1.keysOf? x = r.keysOf? x := by
  rw [Table.contains_eq_false_iff, get?_sessions_closeSession, keysOf?_closeSession]
  refine ⟨if_pos rfl, if_pos rfl, ?_⟩
  intro x hx
  rw [get?_sessions_closeSession, keysOf?_closeSession]
  exact ⟨if_neg hx, if_neg hx⟩

theorem Serves.closeIdle_closes (h : Serves requests r) {maxIdle : Span} {now : Time}
    (hidle : HasIdleSession id requests maxIdle now) :
    (r.closeIdle maxIdle now).1.sessions.contains id = false ∧
      (r.closeIdle maxIdle now).1.keysOf? id = none := by
  have hsession := h.idle_iff.2 hidle
  rw [Table.contains_eq_false_iff, get?_sessions_closeIdle, keysOf?_closeIdle,
    if_pos (mem_idleIds.2 hsession)]
  obtain ⟨s, hsome, hidle⟩ := hsession
  rw [hsome, Option.filter_some, if_neg (by simpa using hidle)]
  exact ⟨rfl, rfl⟩

theorem Serves.closeIdle_keeps (h : Serves requests r) {maxIdle : Span} {now : Time}
    (hidle : ¬HasIdleSession id requests maxIdle now) :
    (r.closeIdle maxIdle now).1.sessions.get? id = r.sessions.get? id ∧
      (r.closeIdle maxIdle now).1.keysOf? id = r.keysOf? id := by
  rw [← h.idle_iff] at hidle
  rw [get?_sessions_closeIdle, keysOf?_closeIdle, if_neg (mt mem_idleIds.1 hidle)]
  refine ⟨?_, rfl⟩
  cases hsome : r.sessions.get? id with
  | none => rfl
  | some s =>
    have hrecent : now - s.lastSent < maxIdle :=
      Nat.lt_of_not_le fun hle => hidle ⟨s, hsome, hle⟩
    rw [Option.filter_some, if_pos (decide_eq_true hrecent)]

theorem Serves.closeIdle_count (h : Serves requests r) (maxIdle : Span) (now : Time) :
    (r.closeIdle maxIdle now).2 = {id | HasIdleSession id requests maxIdle now}.ncard := by
  rw [closeIdle, length_idleIds]
  simp only [h.idle_iff]

end Kept

/-- Whatever is asked of a relay, one call after the other, it has a session for exactly the associations
that a record was to be relayed for since their session was last closed, until it is stopped. To close a
session, or the idle ones, concerns exactly these, and a stopped relay takes no record. -/
theorem follows_requests {servers : List Address} {connected : Relay}
    (hconnect : connect servers = .ok connected) {net : Network}
    (hreaches : connected.Reaches net) (requests : List Request) :
    let r := connected.serveAll net requests
    Serves requests r ∧
      r.sessionCount = {id | HasSession id requests}.ncard ∧
      (∀ id, let (r', closed) := r.closeSession id
        (closed = true ↔ HasSession id requests) ∧
        r'.sessions.contains id = false ∧ r'.keysOf? id = none ∧
        ∀ x, x ≠ id → r'.sessions.get? x = r.sessions.get? x ∧ r'.keysOf? x = r.keysOf? x) ∧
      (∀ maxIdle now, let (r', count) := r.closeIdle maxIdle now
        (∀ id, HasIdleSession id requests maxIdle now →
          r'.sessions.contains id = false ∧ r'.keysOf? id = none) ∧
        (∀ id, ¬HasIdleSession id requests maxIdle now →
          r'.sessions.get? id = r.sessions.get? id ∧ r'.keysOf? id = r.keysOf? id) ∧
        count = {id | HasIdleSession id requests maxIdle now}.ncard) ∧
      (.stop ∈ requests → r.sessionCount = 0 ∧ r.stop = r ∧
        ∀ call now, r.carry net call now = (r, .error stopped)) := by
  intro r
  have hserves : Serves requests r := (kept_serveAll hconnect hreaches requests).serves
  refine ⟨hserves, hserves.sessionCount_eq, ?_, ?_, ?_⟩
  · intro id
    exact ⟨hserves.contains_iff id, closeSession_closes r id⟩
  · intro maxIdle now
    exact ⟨fun id => hserves.closeIdle_closes, fun id => hserves.closeIdle_keeps,
      hserves.closeIdle_count maxIdle now⟩
  · intro hstop
    have hclosed := hserves.closed_iff.2 hstop
    have hnone : {id | HasSession id requests} = ∅ :=
      Set.eq_empty_of_forall_notMem fun id hid => hid.1 hstop
    refine ⟨?_, if_pos hclosed, carry_of_closed hclosed net⟩
    rw [hserves.sessionCount_eq, hnone, Set.ncard_empty]

/-- A network that takes no record. One of two associations has been idle for long enough. -/
theorem follows_requests_unsent :
    let net : Network := { Network.connected with sends := fun _ _ _ => false }
    let server : Address := .v4 .loopback 5000
    let silent : AssociationId := .ofNat 1
    let busy : AssociationId := .ofNat 2
    let requests : List Request :=
      [.carry (.send silent [22]) 0, .carry (.sendWithProfiles busy [22] [.aeadAes128Gcm]) 5,
        .setKeys busy ⟨[1], [2], [3], [4]⟩, .stop, .carry (.send silent [22]) 20]
    let r₀ : Relay := ⟨server, .empty, .empty, false, false, 0⟩
    let r := r₀.serveAll net (requests.take 3)
    HasSession silent (requests.take 3) ∧ HasSession busy (requests.take 3) ∧
      (r.closeIdle 10 12).1.sessions.contains silent = false ∧
      (r.closeIdle 10 12).1.keysOf? busy = some ⟨[1], [2], [3], [4]⟩ ∧
      (r₀.serveAll net requests).sessionCount = 0 := by
  intro net server silent busy requests r₀ r
  have hconnect : connect [server] = .ok r₀ := rfl
  have hreaches : r₀.Reaches net := ⟨rfl, rfl⟩
  obtain ⟨hserves, -, -, hidle, -⟩ := follows_requests hconnect hreaches (requests.take 3)
  obtain ⟨-, -, -, -, hstopped⟩ := follows_requests hconnect hreaches requests
  have hsilent : HasSession silent (requests.take 3) := (hserves.contains_iff silent).1 (by decide)
  have hbusy : HasSession busy (requests.take 3) := (hserves.contains_iff busy).1 (by decide)
  have hclosed : HasIdleSession silent (requests.take 3) 10 12 := ⟨hsilent, 0, by decide, by decide⟩
  have hkept : ¬HasIdleSession busy (requests.take 3) 10 12 := by
    rintro ⟨-, sent, hsent, hlong⟩
    cases hsent.symm.trans (by decide : _ = some 5)
    exact absurd hlong (by decide)
  obtain ⟨hcloses, hkeeps, -⟩ := hidle 10 12
  refine ⟨hsilent, hbusy, (hcloses silent hclosed).1, (hkeeps busy hkept).2.trans (by decide), ?_⟩
  exact (hstopped (by decide)).1

end MediaSocket.Relay
