import MediaSocket.Dispatcher.Request
import MediaSocket.Proofs.Association.Addresses

/-! What a call that sends a record to a peer leaves behind. A record that is refused leaves the
dispatcher as it was. Keys that come with a record are stored before the record is written, and stay
if the network does not take it. -/

namespace MediaSocket.Dispatcher

/-- Why a record for a peer is refused: the first of these that applies. -/
inductive Refused (d : Dispatcher) (id : AssociationId) (record : Bytes) : Error → Prop
  | notDtls (h : PacketClass.of record ≠ .dtls) :
      Refused d id record (.notDtls (PacketClass.of record))
  | unknownClient (dtls : PacketClass.of record = .dtls) (h : d.registry.addressOf? id = none) :
      Refused d id record (.unknownClient id)
  | notListening {address : Address} (dtls : PacketClass.of record = .dtls)
      (registered : d.registry.addressOf? id = some address) (h : d.socket = none) :
      Refused d id record .notListening

/-- A record goes to `address`, from the socket that is bound to `bound`. -/
structure Addressed (d : Dispatcher) (id : AssociationId) (record : Bytes)
    (bound address : Address) : Prop where
  dtls : PacketClass.of record = .dtls
  registered : d.registry.addressOf? id = some address
  listening : d.socket = some bound

variable {net : Network} {d : Dispatcher} {id : AssociationId} {record : Bytes}
  {bound address : Address} {e : Error} {keys : Srtp.Negotiated}

theorem refused_or_addressed (d : Dispatcher) (id : AssociationId) (record : Bytes) :
    (∃ e, Refused d id record e) ∨ ∃ bound address, Addressed d id record bound address := by
  by_cases hdtls : PacketClass.of record = .dtls
  · cases haddress : d.registry.addressOf? id with
    | none => exact .inl ⟨_, .unknownClient hdtls haddress⟩
    | some address =>
      cases hsocket : d.socket with
      | none => exact .inl ⟨_, .notListening hdtls haddress hsocket⟩
      | some bound => exact .inr ⟨bound, address, hdtls, haddress, hsocket⟩
  · exact .inl ⟨_, .notDtls hdtls⟩

theorem Refused.ne_unsent (h : Refused d id record e) : e ≠ unsent := by
  cases h <;> exact nofun

theorem Refused.target_eq (h : Refused d id record e) : d.target id record = .error e := by
  rw [target]
  cases h with
  | notDtls h => rw [if_pos h]
  | unknownClient dtls h => simp [dtls, h]
  | notListening dtls registered h => simp [dtls, registered, h]

theorem Addressed.target_eq (h : Addressed d id record bound address) :
    d.target id record = .ok (bound, address) := by
  rw [target]
  simp [h.dtls, h.registered, h.listening]

theorem target_eq_ok_iff :
    d.target id record = .ok (bound, address) ↔ Addressed d id record bound address := by
  constructor
  · intro h
    obtain ⟨e, hrefused⟩ | ⟨bound', address', haddressed⟩ := refused_or_addressed d id record
    · rw [hrefused.target_eq] at h
      cases h
    · rw [haddressed.target_eq] at h
      cases h
      exact haddressed
  · exact Addressed.target_eq

theorem Refused.send_eq (h : Refused d id record e) (net : Network) :
    d.send net id record = .error e := by
  rw [send, h.target_eq]
  rfl

theorem Addressed.send_eq (h : Addressed d id record bound address) (net : Network) :
    d.send net id record =
      if net.sends bound.ip address record = true then .ok ⟨address, record, true⟩
      else .error unsent := by
  rw [send, h.target_eq]
  change (if net.sends bound.ip address record = true then _ else _) = _
  split
  · rename_i hsent
    rw [Network.write, hsent]
    rfl
  · rfl

theorem Refused.sendWithKeys_eq (h : Refused d id record e) (net : Network)
    (keys : Srtp.Negotiated) : d.sendWithKeys net id record keys = (d, .error e) := by
  rw [sendWithKeys, h.target_eq]

theorem Addressed.sendWithKeys_eq (h : Addressed d id record bound address) (net : Network)
    (keys : Srtp.Negotiated) :
    d.sendWithKeys net id record keys =
      ({ d with registry := d.registry.change (.setKeys id keys) }, d.send net id record) := by
  obtain ⟨p, hp, -⟩ := Option.map_eq_some_iff.1 h.registered
  rw [sendWithKeys, h.target_eq, h.send_eq, Registry.change]
  simp only [Registry.setKeys?, hp, Option.map_some, Option.getD_some, Prod.mk.injEq, true_and]
  change (if net.sends bound.ip address record = true then _ else _) = _
  split
  · rename_i hsent
    rw [Network.write, hsent]
  · rfl

/-! ### What comes of a call -/

/-- The network does not take a record that has been let through. -/
def Lost (net : Network) (d : Dispatcher) (id : AssociationId) (record : Bytes) : Prop :=
  ∃ bound address, Addressed d id record bound address ∧
    net.sends bound.ip address record = false

theorem send_eq_error_iff :
    d.send net id record = .error e ↔ Refused d id record e ∨ Lost net d id record ∧ e = unsent := by
  constructor
  · intro h
    obtain ⟨e', hrefused⟩ | ⟨bound, address, haddressed⟩ := refused_or_addressed d id record
    · rw [hrefused.send_eq] at h
      cases h
      exact .inl hrefused
    · rw [haddressed.send_eq] at h
      split at h
      · cases h
      · rename_i hlost
        cases h
        exact .inr ⟨⟨bound, address, haddressed, Bool.eq_false_iff.2 hlost⟩, rfl⟩
  · rintro (hrefused | ⟨⟨bound, address, haddressed, hlost⟩, rfl⟩)
    · exact hrefused.send_eq net
    · rw [haddressed.send_eq, if_neg (Bool.eq_false_iff.1 hlost)]

theorem send_eq_ok_iff {w : Write} :
    d.send net id record = .ok w ↔
      ∃ bound address, Addressed d id record bound address ∧
        net.sends bound.ip address record = true ∧ w = ⟨address, record, true⟩ := by
  constructor
  · intro h
    obtain ⟨e', hrefused⟩ | ⟨bound, address, haddressed⟩ := refused_or_addressed d id record
    · rw [hrefused.send_eq] at h
      cases h
    · rw [haddressed.send_eq] at h
      split at h
      · rename_i hsent
        cases h
        exact ⟨bound, address, haddressed, hsent, rfl⟩
      · cases h
  · rintro ⟨bound, address, haddressed, hsent, rfl⟩
    rw [haddressed.send_eq, if_pos hsent]

theorem sendWithKeys_snd (net : Network) (d : Dispatcher) (id : AssociationId) (record : Bytes)
    (keys : Srtp.Negotiated) : (d.sendWithKeys net id record keys).2 = d.send net id record := by
  obtain ⟨e, hrefused⟩ | ⟨bound, address, haddressed⟩ := refused_or_addressed d id record
  · rw [hrefused.sendWithKeys_eq, hrefused.send_eq]
  · rw [haddressed.sendWithKeys_eq]

theorem get?_sendWithKeys (haddressed : Addressed d id record bound address) (net : Network)
    (keys : Srtp.Negotiated) (x : AssociationId) :
    (d.sendWithKeys net id record keys).1.registry.get? x =
      (d.registry.get? x).map fun p => if x = id then { p with keys := some keys } else p := by
  rw [haddressed.sendWithKeys_eq, Registry.get?_change, Registry.peerAfter]
  by_cases hx : id = x
  · simp [hx]
  · simp [hx, Ne.symm hx]

/-- No call makes a peer known or forgets one. -/
theorem contains_sendWithKeys (net : Network) (d : Dispatcher) (id : AssociationId)
    (record : Bytes) (keys : Srtp.Negotiated) (x : AssociationId) :
    (d.sendWithKeys net id record keys).1.registry.contains x = d.registry.contains x := by
  obtain ⟨e, hrefused⟩ | ⟨bound, address, haddressed⟩ := refused_or_addressed d id record
  · rw [hrefused.sendWithKeys_eq]
  · have hget := get?_sendWithKeys haddressed net keys x
    simp only [Registry.get?] at hget
    rw [Registry.contains, Registry.contains, Table.contains, Table.contains, hget, Option.isSome_map]

theorem setKeys_eq_self_iff (haddressed : Addressed d id record bound address) :
    d.registry.change (.setKeys id keys) = d.registry ↔ d.registry.keysOf? id = some keys := by
  obtain ⟨p, hp, -⟩ := Option.map_eq_some_iff.1 haddressed.registered
  have hkeys : d.registry.keysOf? id = p.keys := by rw [Registry.keysOf?, hp]; rfl
  rw [hkeys]
  constructor
  · intro hsame
    have hget := Registry.get?_change d.registry (.setKeys id keys) id
    rw [hsame, Registry.peerAfter, if_pos rfl, hp, Option.map_some, Option.some.injEq] at hget
    exact congrArg Peer.keys hget
  · intro hkeys
    have hinsert : d.registry.peers.insert id { p with keys := some keys } = d.registry.peers := by
      rw [← hkeys]
      exact Table.insert_eq_self hp
    simp only [Registry.change, Registry.setKeys?, hp, Option.map_some, Option.getD_some, hinsert]

/-- A call that fails has changed nothing, unless it is the network that failed and the keys are new. -/
theorem sendWithKeys_fst_eq_iff (h : (d.sendWithKeys net id record keys).2 = .error e) :
    (d.sendWithKeys net id record keys).1 = d ↔ e ≠ unsent ∨ d.registry.keysOf? id = some keys := by
  rw [sendWithKeys_snd, send_eq_error_iff] at h
  obtain hrefused | ⟨⟨bound, address, haddressed, -⟩, rfl⟩ := h
  · rw [hrefused.sendWithKeys_eq]
    exact ⟨fun _ => .inl hrefused.ne_unsent, fun _ => rfl⟩
  · rw [haddressed.sendWithKeys_eq, ← setKeys_eq_self_iff haddressed]
    constructor
    · intro hsame
      exact .inr (congrArg Dispatcher.registry hsame)
    · rintro (hunsent | hsame)
      · exact absurd rfl hunsent
      · rw [hsame]

/-- To send a record with keys comes to the same as to send it without. A record is refused for the
first reason that applies, or lost in the network, or goes out as it is to the address registered for
the peer; no peer appears or disappears. With success the keys are stored and nothing else changes.
With failure nothing at all changes, unless the record was lost and its keys are new. -/
theorem sendWithKeys_traceless_iff (net : Network) (d : Dispatcher) (id : AssociationId)
    (record : Bytes) (keys : Srtp.Negotiated) :
    let after := (d.sendWithKeys net id record keys).1
    let result := (d.sendWithKeys net id record keys).2
    result = d.send net id record ∧
      (∀ e, result = .error e ↔ Refused d id record e ∨ Lost net d id record ∧ e = unsent) ∧
      (∀ w, result = .ok w ↔ ∃ bound address, Addressed d id record bound address ∧
        net.sends bound.ip address record = true ∧ w = ⟨address, record, true⟩) ∧
      (∀ x, after.registry.contains x = d.registry.contains x) ∧
      (∀ w, result = .ok w → after = { d with registry := after.registry } ∧
        after.registry.width = d.registry.width ∧
        after.registry.keysOf? id = some keys ∧
        ∀ x, after.registry.get? x =
          (d.registry.get? x).map fun p => if x = id then { p with keys := some keys } else p) ∧
      ∀ e, result = .error e → (after = d ↔ e ≠ unsent ∨ d.registry.keysOf? id = some keys) := by
  intro after result
  have hresult : result = d.send net id record := sendWithKeys_snd net d id record keys
  refine ⟨hresult, ?_, ?_, contains_sendWithKeys net d id record keys, ?_, ?_⟩
  · intro e
    rw [hresult]
    exact send_eq_error_iff
  · intro w
    rw [hresult]
    exact send_eq_ok_iff
  · intro w hw
    obtain ⟨bound, address, haddressed, -⟩ := send_eq_ok_iff.1 (hresult.symm.trans hw)
    have hget := get?_sendWithKeys haddressed net keys
    have hafter : after = { d with registry := d.registry.change (.setKeys id keys) } :=
      congrArg Prod.fst (haddressed.sendWithKeys_eq net keys)
    obtain ⟨p, hp, -⟩ := Option.map_eq_some_iff.1 haddressed.registered
    refine ⟨?_, ?_, ?_, hget⟩
    · rw [hafter]
    · rw [hafter]
      exact Registry.width_change d.registry (.setKeys id keys)
    · rw [Registry.keysOf?, hget id, hp]
      simp
  · intro e he
    exact sendWithKeys_fst_eq_iff he

/-- Keys that are stored already make no difference, even if the network takes nothing. -/
theorem sendWithKeys_traceless_known_keys :
    let net : Network := { Network.connected with sends := fun _ _ _ => false }
    let peer : Address := .v4 .loopback 5000
    let keys : Srtp.Negotiated := ⟨.aes128CmSha1_80, ⟨[1], [2], [3], [4]⟩⟩
    let r := ((Registry.empty .wide).register peer 0).change
      (.setKeys ((Registry.empty .wide).resolve peer) keys)
    let d : Dispatcher := ⟨{}, ⟨"0123456789abcdefghijkl", none⟩, r, .running, some (.v4 .loopback 4000)⟩
    (d.sendWithKeys net (r.resolve peer) [22] keys).2 = .error unsent ∧
      (d.sendWithKeys net (r.resolve peer) [22] keys).1 = d := by
  intro net peer keys r d
  have hresolve : r.resolve peer = (Registry.empty .wide).resolve peer := by
    rw [Registry.resolve, Registry.width_change]
    rfl
  have hget : r.get? (r.resolve peer) = some ⟨peer, some keys, 0, 0⟩ := by
    rw [hresolve, Registry.get?_setKeys, if_pos rfl, Registry.get?_register, if_pos rfl,
      Registry.get?_empty]
    rfl
  have haddressed : Addressed d (r.resolve peer) [22] (.v4 .loopback 4000) peer :=
    ⟨by decide, by rw [Registry.addressOf?, hget]; rfl, rfl⟩
  obtain ⟨-, herror, -, -, -, hsame⟩ :=
    sendWithKeys_traceless_iff net d (r.resolve peer) [22] keys
  have hunsent := (herror unsent).2 (.inr ⟨⟨_, _, haddressed, rfl⟩, rfl⟩)
  refine ⟨hunsent, (hsame unsent hunsent).2 (.inr ?_)⟩
  rw [Registry.keysOf?, hget]
  rfl

theorem connected_sends_of_long {source : Ip} {target : Address} {payload : Bytes}
    (h : 65507 < payload.length) : Network.connected.sends source target payload = false := by
  change Network.carries source target payload = false
  unfold Network.carries
  rw [decide_eq_false (Nat.not_le.2 h), Bool.false_and, Bool.false_and]

/-- A record too long for the network. The call fails, but the peer has the keys from then on. -/
theorem sendWithKeys_keeps_unsent_keys :
    let net := Network.connected
    let peer : Address := .v4 .loopback 5000
    let record : Bytes := List.replicate 65508 0x16
    let keys : Srtp.Negotiated := ⟨.aeadAes256Gcm, ⟨[1], [2], [3], [4]⟩⟩
    ∃ made, Dispatcher.new { bindIp := .v4 .loopback } "0123456789abcdefghijkl" = .ok made ∧
      let d := made.serveAll net [.listen 0 4000 false, .receive peer [2] 0]
      let id := d.registry.resolve peer
      (d.sendWithKeys net id record keys).2 = .error unsent ∧
        d.registry.keysOf? id = none ∧
        (d.sendWithKeys net id record keys).1.registry.keysOf? id = some keys := by
  intro net peer record keys
  refine ⟨_, rfl, ?_⟩
  intro d id
  have hregistry : d.registry = (Registry.empty .wide).register peer 0 := rfl
  have hget : d.registry.get? id = some ⟨peer, none, 0, 0⟩ := by
    change d.registry.get? ((Registry.empty .wide).resolve peer) = _
    rw [hregistry, Registry.get?_register, if_pos rfl, Registry.get?_empty]
    rfl
  have haddressed : Addressed d id record (.v4 .loopback 4000) peer :=
    ⟨rfl, by rw [Registry.addressOf?, hget]; rfl, rfl⟩
  have hlong : net.sends (Address.v4 .loopback 4000).ip peer record = false := by
    have hlength : record.length = 65508 := List.length_replicate
    clear_value record
    exact connected_sends_of_long (hlength ▸ by decide)
  refine ⟨?_, ?_, ?_⟩
  · rw [sendWithKeys_snd]
    exact send_eq_error_iff.2 (.inr ⟨⟨_, _, haddressed, hlong⟩, rfl⟩)
  · rw [Registry.keysOf?, hget]
    rfl
  · rw [Registry.keysOf?, get?_sendWithKeys haddressed, hget]
    simp

end MediaSocket.Dispatcher
