import MediaSocket.Dispatcher
import MediaSocket.Proofs.Association.Addresses

/-! Where a media packet goes. A registry stores no address twice, so whoever is to get a packet gets it
once; and what has the id of the sender is left out, whatever address the sender uses. -/

namespace MediaSocket

namespace Registry

variable {r : Registry} {id : AssociationId} {a : Address}

/-- Of the addresses that are stored, the one of an id is the one that has the id. -/
theorem Sound.addressOf?_eq_iff (h : r.Sound) {x : AssociationId} (hx : r.addressOf? x = some a) :
    r.addressOf? id = some a ↔ r.resolve a = id := by
  constructor
  · exact h id a
  · rintro rfl
    rw [h x a hx]
    exact hx

end Registry

namespace Srtp

/-- A payload is written as it is, once at each address with a property and nowhere else. What becomes
of one write is up to the network, and has no bearing on the others. -/
structure Fans (net : Network) (source : Ip) (payload : Bytes) (goes : Address → Prop)
    (writes : List Write) : Prop where
  each : ∀ w ∈ writes, w.payload = payload ∧ w.sent = net.sends source w.target payload
  once : (writes.map Write.target).Nodup
  exact : ∀ a, a ∈ writes.map Write.target ↔ goes a

variable {net : Network} {source : Ip} {r : Registry} {sender : AssociationId} {payload : Bytes}
  {p : Policy} {targets : List Address}

theorem map_target_write (net : Network) (source : Ip) (targets : List Address)
    (payload : Bytes) :
    (targets.map fun a => net.write source a payload).map Write.target = targets := by
  rw [List.map_map]
  exact List.map_id targets

theorem fans_map_write (nodup : targets.Nodup) (net : Network) (source : Ip) (payload : Bytes) :
    Fans net source payload (· ∈ targets) (targets.map fun a => net.write source a payload) where
  each w hw := by
    obtain ⟨a, -, rfl⟩ := List.mem_map.1 hw
    exact ⟨rfl, rfl⟩
  once := by
    rw [map_target_write]
    exact nodup
  exact a := by rw [map_target_write]

namespace Policy

theorem forward_of_targets (h : p.targets? r sender = some targets) (net : Network) (source : Ip)
    (payload : Bytes) :
    let writes := targets.map fun a => net.write source a payload
    p.forward net source r sender payload = (.ok (writes.countP Write.sent), writes) := by
  rw [forward, forward?, h]
  rfl

theorem forward_of_no_targets (h : p.targets? r sender = none) (net : Network) (source : Ip)
    (payload : Bytes) :
    p.forward net source r sender payload = (.error (.unknownClient sender), []) := by
  rw [forward, forward?, h]
  rfl

theorem targets?_eq_none_iff :
    p.targets? r sender = none ↔ p = .unicast ∧ r.addressOf? sender = none := by
  cases p with
  | broadcastExclusion => simp [targets?]
  | unicast => simp [targets?]

theorem registered_of_targets (h : p.targets? r sender = some targets) {a : Address}
    (ha : a ∈ targets) : ∃ x, r.addressOf? x = some a := by
  cases p with
  | broadcastExclusion =>
    cases h
    obtain ⟨x, -, hx⟩ := Registry.mem_addressesExcluding.1 ha
    exact ⟨x, hx⟩
  | unicast =>
    obtain ⟨b, hb, rfl⟩ := Option.map_eq_some_iff.1 h
    rw [List.mem_singleton.1 ha]
    exact ⟨sender, hb⟩

/-- The addresses that a packet of `sender` is for. -/
def Goes (p : Policy) (r : Registry) (sender : AssociationId) (a : Address) : Prop :=
  match p with
  | .broadcastExclusion => (∃ x, r.addressOf? x = some a) ∧ r.addressOf? sender ≠ some a
  | .unicast => r.addressOf? sender = some a

theorem targets?_exact (sound : r.Sound) (h : p.targets? r sender = some targets) :
    targets.Nodup ∧ ∀ a, a ∈ targets ↔ p.Goes r sender a := by
  cases p with
  | broadcastExclusion =>
    cases h
    refine ⟨sound.nodup_addressesExcluding sender, ?_⟩
    intro a
    rw [sound.mem_addressesExcluding_iff, Goes]
    refine and_congr_right ?_
    rintro ⟨x, hx⟩
    exact not_congr (sound.addressOf?_eq_iff hx).symm
  | unicast =>
    obtain ⟨b, hb, rfl⟩ := Option.map_eq_some_iff.1 h
    refine ⟨List.nodup_singleton b, ?_⟩
    intro a
    rw [List.mem_singleton, Goes, hb, Option.some.injEq, eq_comm]

/-- Unless the policy misses the sender, a packet goes where the policy says. -/
theorem forward_fans (sound : r.Sound) (known : p = .unicast → r.addressOf? sender ≠ none)
    (net : Network) (source : Ip) (payload : Bytes) :
    ∃ writes, p.forward net source r sender payload = (.ok (writes.countP Write.sent), writes) ∧
      Fans net source payload (p.Goes r sender) writes := by
  cases htargets : p.targets? r sender with
  | none =>
    obtain ⟨hunicast, hmissing⟩ := targets?_eq_none_iff.1 htargets
    exact absurd hmissing (known hunicast)
  | some targets =>
    obtain ⟨hnodup, hgoes⟩ := targets?_exact sound htargets
    have hfans := fans_map_write hnodup net source payload
    refine ⟨_, forward_of_targets htargets net source payload, hfans.each, hfans.once, ?_⟩
    intro a
    rw [hfans.exact a, hgoes a]

end Policy

end Srtp

namespace Router

open Srtp (Fans Policy)

theorem forward_eq (router : Router) (net : Network) (r : Registry) (id : AssociationId)
    (payload : Bytes) :
    router.forward net r id payload =
      (router.policy.forward net router.bound r id payload).2.map .write := by
  rw [forward, Policy.forward]
  cases router.policy.forward? net router.bound r id payload <;> rfl

/-- A media packet is written once to every registered address but the one of its sender's id, and
not to the sender either, or else to the address of its sender's id alone. No write depends on what
becomes of the others. Only a sender that is not registered can be missed, and a datagram registers
its source. -/
theorem srtp_fan_out_exact (router : Router) (width : IdWidth) (changes : List Registry.Change)
    (net : Network) (now : Time) (p : Packet) (media : PacketClass.of p.payload = .srtp) :
    let r := (Registry.empty width).changeAll changes
    let id := r.resolve p.source
    (∃ writes,
      let r' := r.register p.source now
      router.route net r now p = (r', writes.map .write) ∧
        router.policy.forward net router.bound r' id p.payload =
          (.ok (writes.countP Write.sent), writes) ∧
        Fans net router.bound p.payload (router.policy.Goes r' id) writes ∧
        (router.policy = .broadcastExclusion → p.source ∉ writes.map Write.target) ∧
        (router.policy = .unicast → ∃ a, r'.addressOf? id = some a ∧
          writes = [⟨a, p.payload, net.sends router.bound a p.payload⟩])) ∧
      ∀ sender payload, r.addressOf? sender = none →
        Policy.unicast.forward net router.bound r sender payload =
          (.error (.unknownClient sender), []) := by
  intro r id
  have hsound : r.Sound := Registry.sound_changeAll width changes
  refine ⟨?_, ?_⟩
  · have hsound' : (r.register p.source now).Sound := hsound.change (.register p.source now)
    have hregistered := Registry.addressOf?_register_self r p.source now
    have hknown : router.policy = .unicast → (r.register p.source now).addressOf? id ≠ none := by
      intro _
      rw [hregistered]
      exact Option.some_ne_none _
    obtain ⟨writes, hforward, hfans⟩ :=
      Policy.forward_fans hsound' hknown net router.bound p.payload
    refine ⟨writes, ?_, hforward, hfans, ?_, ?_⟩
    · rw [route]
      simp only [media, forward_eq]
      rw [hforward]
    · intro hpolicy hsource
      -- if the source is registered at all, it is so under its own id, which is left out
      have hgoes := (hfans.exact p.source).1 hsource
      rw [hpolicy] at hgoes
      obtain ⟨⟨x, hx⟩, hne⟩ := hgoes
      exact hne ((hsound'.addressOf?_eq_iff hx).2 rfl)
    · intro hpolicy
      refine ⟨_, hregistered, ?_⟩
      have htargets : Policy.unicast.targets? (r.register p.source now) id =
          some [(r.addressOf? id).getD p.source] := by
        rw [Policy.targets?, hregistered]
        rfl
      rw [hpolicy, Policy.forward_of_targets htargets] at hforward
      exact (Prod.mk.inj hforward).2.symm
  · intro sender payload hmissing
    exact Policy.forward_of_no_targets (Policy.targets?_eq_none_iff.2 ⟨rfl, hmissing⟩) net
      router.bound payload

/-- Two addresses with one narrow id. Media from the one that is not registered goes unchanged to a third
peer, and to neither of the two. -/
theorem srtp_fan_out_collision :
    let a : Address := .v4 .loopback 4480
    let b : Address := .v4 .loopback 4816
    let c : Address := .v4 .loopback 5000
    let router : Router := ⟨.v4 .loopback, ⟨"0123456789abcdefghijkl", none⟩, [], .broadcastExclusion⟩
    let r := (Registry.empty .narrow).changeAll [.register a 0, .register c 1]
    r.resolve b = r.resolve a ∧ PacketClass.of [0x80] = .srtp ∧
      ∃ writes : List Write, (router.route .connected r 2 ⟨b, [0x80]⟩).2 = writes.map .write ∧
        (∀ w ∈ writes, w.payload = [0x80]) ∧ (writes.map Write.target).Nodup ∧
        ∀ t, t ∈ writes.map Write.target ↔ t = c := by
  intro a b c router r
  have hshared : AssociationId.derive b .narrow = AssociationId.derive a .narrow := by
    -- compared byte by byte, because only that can be evaluated
    have hbytes : (AssociationId.derive b .narrow).bytes.toList =
        (AssociationId.derive a .narrow).bytes.toList := eq_of_beq (by decide +kernel)
    exact congrArg AssociationId.mk (Vector.toList_inj.1 hbytes)
  have hother : AssociationId.derive c .narrow ≠ AssociationId.derive a .narrow := by
    decide +kernel
  have media : PacketClass.of [0x80] = .srtp := by decide
  have hclass : PacketClass.of (Packet.mk b [0x80]).payload = .srtp := media
  obtain ⟨⟨writes, hroute, -, hfans, -⟩, -⟩ := srtp_fan_out_exact router .narrow
    [.register a 0, .register c 1] .connected 2 ⟨b, [0x80]⟩ hclass
  refine ⟨hshared, media, writes, congrArg Prod.snd hroute, fun w hw => (hfans.each w hw).1,
    hfans.once, ?_⟩
  intro t
  rw [hfans.exact t]
  have hempty (x : AssociationId) : (Registry.empty .narrow).addressOf? x = none := rfl
  have hr : r = ((Registry.empty .narrow).register a 0).register c 1 := rfl
  have ha : (Registry.empty .narrow).resolve a = AssociationId.derive a .narrow := rfl
  have hb : r.resolve b = AssociationId.derive a .narrow := hshared
  have hc : ((Registry.empty .narrow).register a 0).resolve c = AssociationId.derive c .narrow := rfl
  have hknown (x : AssociationId) : (r.register b 2).addressOf? x =
      if AssociationId.derive c .narrow = x then some c
      else if AssociationId.derive a .narrow = x then some a else none := by
    rw [Registry.addressOf?_register, hb, hr, Registry.addressOf?_register,
      Registry.addressOf?_register, ha, hc, hempty]
    clear_value a b c
    grind
  have hac : a ≠ c := by decide
  change (∃ x, (r.register b 2).addressOf? x = some t) ∧
    (r.register b 2).addressOf? (r.resolve b) ≠ some t ↔ t = c
  simp only [hknown, hb, if_neg hother, if_true]
  clear_value a b c
  constructor
  · rintro ⟨⟨x, hx⟩, hne⟩
    grind
  · rintro rfl
    exact ⟨⟨_, if_pos rfl⟩, fun h => hac (Option.some.inj h)⟩

end Router

end MediaSocket
