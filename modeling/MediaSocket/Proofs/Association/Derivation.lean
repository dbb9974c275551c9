import MediaSocket.Association.Id
import MediaSocket.Proofs.Address.Text
import MediaSocket.Proofs.Text.Utf8

/-! What an id says about an address. The text that is hashed names the peer, so that two peers share an
id only if the digests of two texts begin alike. Nothing is used of the digest but its length. -/

namespace MediaSocket.AssociationId

variable {a b : Address} {x y : Bytes} {width : IdWidth}

/-- The bytes that the id of an address is the digest of. -/
def hashed (a : Address) : Bytes := Text.Utf8.encode a.chars

/-- The bytes of the digest that are kept. -/
def kept (a : Address) (width : IdWidth) : Bytes :=
  (Digest.Sha256.digest (hashed a)).take width.kept

theorem derive_eq_ofBytes (a : Address) (width : IdWidth) : derive a width = ofBytes (kept a width) :=
  rfl

theorem hashed_eq_iff : hashed a = hashed b ↔ a.SamePeer b := by
  rw [← Address.chars_eq_iff]
  constructor
  · intro h
    have hread := congrArg Text.Utf8.decodeLossy h
    rwa [hashed, hashed, Text.Utf8.decodeLossy_encode, Text.Utf8.decodeLossy_encode] at hread
  · intro h
    rw [hashed, h, hashed]

theorem length_kept (a : Address) (width : IdWidth) : (kept a width).length = width.kept := by
  rw [kept, List.length_take, Digest.Sha256.length_digest]
  cases width with
  | wide => rfl
  | narrow => rfl

theorem toList_ofBytes (h : x.length ≤ 16) :
    (ofBytes x).bytes.toList = x ++ List.replicate (16 - x.length) 0 :=
  Bytes.toList_ofFn_getD h

theorem ofBytes_eq_iff (hx : x.length ≤ 16) (hy : y.length = x.length) :
    ofBytes x = ofBytes y ↔ x = y := by
  constructor
  · intro h
    have hbytes := congrArg (fun id : AssociationId => id.bytes.toList) h
    simp only [toList_ofBytes hx, toList_ofBytes (hy ▸ hx), hy] at hbytes
    exact List.append_cancel_right hbytes
  · rintro rfl
    rfl

theorem kept_le (width : IdWidth) : width.kept ≤ 16 := by
  cases width with
  | wide => exact Nat.le_refl 16
  | narrow => decide

theorem derive_eq_iff : derive a width = derive b width ↔ kept a width = kept b width := by
  rw [derive_eq_ofBytes, derive_eq_ofBytes]
  refine ofBytes_eq_iff ?_ ?_
  · rw [length_kept]
    exact kept_le width
  · rw [length_kept, length_kept]

/-- A narrow id is the front of the wide one. -/
theorem toList_derive_narrow (a : Address) :
    (derive a .narrow).bytes.toList =
      (derive a .wide).bytes.toList.take 2 ++ List.replicate 14 0 := by
  have hnarrow : (kept a .narrow).length = 2 := length_kept a .narrow
  have hwide : (kept a .wide).length = 16 := length_kept a .wide
  have hfront : (kept a .wide).take 2 = kept a .narrow := List.take_take ..
  rw [derive_eq_ofBytes, derive_eq_ofBytes, toList_ofBytes (by omega), toList_ofBytes (by omega),
    hnarrow, hwide, Nat.sub_self, List.replicate_zero, List.append_nil, hfront]

/-- The bytes that are hashed are the same exactly for addresses of the same peer, and never for an IPv4
and an IPv6 address, be it the mapped form. Peers that differ share an id exactly if as much of the
digests of their different texts is the same as is kept. A narrow id is the wide one with zeros behind
the first two bytes. -/
theorem derive_identifies (a b : Address) (width : IdWidth) :
    (hashed a = hashed b ↔ a.SamePeer b) ∧
    (a.SamePeer b → derive a width = derive b width) ∧
    (¬a.SamePeer b →
      (derive a width = derive b width ↔
        hashed a ≠ hashed b ∧
          (Digest.Sha256.digest (hashed a)).take width.kept =
            (Digest.Sha256.digest (hashed b)).take width.kept)) ∧
    (∀ v4 port v6 port' flow scope, hashed (.v4 v4 port) ≠ hashed (.v6 v6 port' flow scope)) ∧
    (derive a .narrow).bytes.toList =
      (derive a .wide).bytes.toList.take 2 ++ List.replicate 14 0 := by
  refine ⟨hashed_eq_iff, fun hsame => ?_, fun hother => ?_, ?_, toList_derive_narrow a⟩
  · rw [derive_eq_iff, kept, hashed_eq_iff.2 hsame, kept]
  · have htexts : hashed a ≠ hashed b := fun h => hother (hashed_eq_iff.1 h)
    rw [derive_eq_iff]
    exact ⟨fun h => ⟨htexts, h⟩, And.right⟩
  · intro v4 port v6 port' flow scope h
    cases (hashed_eq_iff.1 h).ip

/-- The digests of two ports of one host begin alike, and a flow label makes no other peer. -/
theorem derive_identifies_collision :
    let a : Address := .v4 .loopback 4480
    let b : Address := .v4 .loopback 4816
    (¬a.SamePeer b ∧ derive a .narrow = derive b .narrow ∧ hashed a ≠ hashed b ∧
      (Digest.Sha256.digest (hashed a)).take 2 = (Digest.Sha256.digest (hashed b)).take 2) ∧
    derive (.v6 .loopback 4480 0 7) .wide = derive (.v6 .loopback 4480 5 7) .wide := by
  intro a b
  have hother : ¬a.SamePeer b := fun h => absurd h.port (by decide)
  have hshared : derive a .narrow = derive b .narrow := by
    -- compared byte by byte, because only that can be evaluated
    have hbytes : (derive a .narrow).bytes.toList = (derive b .narrow).bytes.toList :=
      eq_of_beq (by decide +kernel)
    exact congrArg AssociationId.mk (Vector.toList_inj.1 hbytes)
  obtain ⟨-, -, hcollides, -⟩ := derive_identifies a b .narrow
  obtain ⟨-, hsame, -⟩ :=
    derive_identifies (.v6 .loopback 4480 0 7) (.v6 .loopback 4480 5 7) .wide
  exact ⟨⟨hother, hshared, (hcollides hother).1 hshared⟩, hsame ⟨rfl, rfl, rfl⟩⟩

end MediaSocket.AssociationId
