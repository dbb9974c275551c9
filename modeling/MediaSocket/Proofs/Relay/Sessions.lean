import MediaSocket.Proofs.Relay.History

/-! Every session has a socket of its own, so the socket that a reply comes in on tells whom the reply
is for. -/

namespace MediaSocket.Relay

variable {r : Relay} {net : Network} {id : AssociationId} {now : Time} {socket opened : Nat}

/-- No two sessions share a socket, and the next socket will be a new one. -/
structure Numbered (r : Relay) : Prop where
  below : ∀ {x : AssociationId} {s : Session}, r.sessions.get? x = some s → s.socket < r.opened
  distinct : ∀ {x y : AssociationId} {s t : Session}, r.sessions.get? x = some s →
    r.sessions.get? y = some t → s.socket = t.socket → x = y

/-- The socket that a record of an association goes out on, and how many sockets there have been
then: the socket of the session, or a new one. -/
inductive Joins (r : Relay) (id : AssociationId) : Nat → Nat → Prop
  | found {s : Session} (h : r.sessions.get? id = some s) : Joins r id s.socket r.opened
  | opens (h : r.sessions.get? id = none) : Joins r id r.opened (r.opened + 1)

/-- The relay after a record of an association went out on `socket`. -/
def joined (r : Relay) (id : AssociationId) (socket opened : Nat) (now : Time) : Relay :=
  { r with sessions := r.sessions.insert id ⟨socket, now⟩, opened }

theorem openSession_joins {r' : Relay} (h : r.openSession net id now = .ok (r', socket)) :
    ∃ opened, r.Joins id socket opened ∧ r' = r.joined id socket opened now := by
  rw [openSession] at h
  cases hs : r.sessions.get? id with
  | some s =>
    rw [hs] at h
    cases h
    exact ⟨r.opened, .found hs, rfl⟩
  | none =>
    rw [hs] at h
    dsimp only at h
    split at h
    · cases h
      exact ⟨r.opened + 1, .opens hs, rfl⟩
    · cases h

/-- A record that the network takes goes out on the socket of its association. -/
theorem carry_of_taken (reaches : r.Reaches net) (running : r.closed = false) {call : TunnelCall}
    (taken : r.transmits net call.record = true) (now : Time) :
    ∃ socket opened, r.Joins call.id socket opened ∧ r.carry net call now =
      (r.joined call.id socket opened now, .ok ⟨call.id, socket, call.record⟩) := by
  obtain ⟨socket, opened, hsession⟩ := openSession_of_reaches reaches call.id now
  obtain ⟨opened', hjoins, hjoined⟩ := openSession_joins hsession
  refine ⟨socket, opened', hjoins, ?_⟩
  rw [carry, send, if_neg (Bool.eq_false_iff.1 running), hsession, hjoined]
  exact if_pos taken

theorem get?_joined (r : Relay) (id : AssociationId) (socket opened : Nat) (now : Time)
    (x : AssociationId) :
    (r.joined id socket opened now).sessions.get? x =
      if id = x then some ⟨socket, now⟩ else r.sessions.get? x :=
  Table.get?_insert ..

/-- A session that is there keeps its socket. -/
theorem Joins.keeps (joins : r.Joins id socket opened) (now : Time) {x : AssociationId}
    {s : Session} (h : r.sessions.get? x = some s) :
    ((r.joined id socket opened now).sessions.get? x).map Session.socket = some s.socket := by
  rw [get?_joined]
  by_cases hx : id = x
  · subst hx
    rw [if_pos rfl]
    cases joins with
    | found hfound =>
      rw [hfound] at h
      cases h
      rfl
    | opens hnone =>
      rw [hnone] at h
      cases h
  · rw [if_neg hx, h]
    rfl

/-! ### Every call keeps the sockets apart -/

theorem Joins.below (joins : r.Joins id socket opened) (h : r.Numbered) :
    socket < opened ∧ r.opened ≤ opened := by
  cases joins with
  | found hs => exact ⟨h.below hs, Nat.le_refl _⟩
  | opens _ => omega

/-- Nobody else has the socket. -/
theorem Joins.own (joins : r.Joins id socket opened) (h : r.Numbered) {x : AssociationId}
    {s : Session} (hs : r.sessions.get? x = some s) (hsocket : s.socket = socket) : x = id := by
  cases joins with
  | found hfound => exact h.distinct hs hfound hsocket
  | opens _ =>
    have hbelow := h.below hs
    omega

theorem Numbered.joined (h : r.Numbered) (joins : r.Joins id socket opened) (now : Time) :
    (r.joined id socket opened now).Numbered := by
  obtain ⟨hnew, hold⟩ := joins.below h
  refine ⟨?_, ?_⟩
  · intro x s hs
    show s.socket < opened
    rw [get?_joined] at hs
    split at hs
    · cases hs
      exact hnew
    · have hbelow := h.below hs
      omega
  · intro x y s t hs ht hsocket
    rw [get?_joined] at hs ht
    -- each of the two is the session that was joined, or one that was there before
    split at hs
    · rename_i hx
      cases hs
      split at ht
      · rename_i hy
        exact hx.symm.trans hy
      · exact hx.symm.trans (joins.own h ht hsocket.symm).symm
    · split at ht
      · rename_i hy
        cases ht
        exact (joins.own h hs hsocket).trans hy
      · exact h.distinct hs ht hsocket

/-- Sessions may go without harm. -/
theorem Numbered.of_fewer (h : r.Numbered) {r' : Relay} (opened : r'.opened = r.opened)
    (fewer : ∀ x s, r'.sessions.get? x = some s → r.sessions.get? x = some s) : r'.Numbered where
  below hs := opened ▸ h.below (fewer _ _ hs)
  distinct hs ht := h.distinct (fewer _ _ hs) (fewer _ _ ht)

theorem Numbered.carry (h : r.Numbered) (net : Network) (call : TunnelCall) (now : Time) :
    (r.carry net call now).1.Numbered := by
  rw [Relay.carry, Relay.send]
  split
  · exact h
  · split
    · exact h
    · rename_i hsession
      obtain ⟨opened, hjoins, rfl⟩ := openSession_joins hsession
      split
      · exact h.joined hjoins now
      · exact h.joined hjoins now

theorem Numbered.serve (h : r.Numbered) (net : Network) (q : Request) : (r.serve net q).Numbered := by
  cases q with
  | carry call now => exact h.carry net call now
  | setKeys x keys => exact h.of_fewer rfl fun _ _ hs => hs
  | closeSession x =>
    apply h.of_fewer
    · rfl
    · intro y s hs
      rw [Relay.serve, get?_sessions_closeSession] at hs
      exact (Option.ite_none_left_eq_some.1 hs).2
  | closeIdle maxIdle now =>
    apply h.of_fewer
    · rw [Relay.serve, closeIdle, forgetAll_eq]
      rfl
    · intro y s hs
      rw [Relay.serve, get?_sessions_closeIdle] at hs
      exact (Option.filter_eq_some_iff.1 hs).1
  | stop =>
    rw [Relay.serve, stop]
    split
    · exact h
    · apply h.of_fewer
      · rfl
      · intro x s hs
        cases hs

/-- The sockets are apart in every relay, whatever has been asked of it. -/
theorem numbered_serveAll {servers : List Address} (h : connect servers = .ok r) (net : Network)
    (requests : List Request) : (r.serveAll net requests).Numbered := by
  induction requests using List.reverseRecOn with
  | nil =>
    cases servers with
    | nil => cases h
    | cons server rest =>
      cases h
      exact ⟨nofun, nofun⟩
  | append_singleton requests q ih =>
    rw [serveAll_concat]
    exact ih.serve net q

/-! ### Replies -/

theorem Numbered.reply?_eq (h : r.Numbered) (attached : r.attached = true) {s : Session}
    (hs : r.sessions.get? id = some s) (datagram : Bytes) :
    r.reply? s.socket datagram = some (id, datagram.take 2048) := by
  rw [reply?, if_pos attached]
  have hentry : (id, s) ∈ r.sessions.entries := Table.mem_entries_iff.2 hs
  cases hfind : r.sessions.entries.find? fun e => e.2.socket == s.socket with
  | none => simpa using List.find?_eq_none.1 hfind (id, s) hentry
  | some e =>
    have hfound := List.find?_some hfind
    have hsocket : e.2.socket = s.socket := beq_iff_eq.1 hfound
    have hsession : r.sessions.get? e.1 = some e.2 :=
      Table.mem_entries_iff.1 (List.mem_of_find?_eq_some hfind)
    rw [Option.map_some, h.distinct hsession hs hsocket]
    rfl

end MediaSocket.Relay
