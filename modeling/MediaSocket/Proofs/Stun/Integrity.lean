import MediaSocket.Proofs.Stun.Signature

/-! What stands behind MESSAGE-INTEGRITY does not count for it. Whether it is right is the same for a
message and for what remains when the message is cut behind it, and so for all messages that agree
up to there, as long as nothing but FINGERPRINT follows. -/

namespace MediaSocket.Stun

theorem withLength_frame (type length : UInt16) (id : TransactionId) (body : Bytes) (n : Nat) :
    withLength (frame type length id body) n = frame type (UInt16.ofNat n) id body := rfl

theorem frame_inj {type length type' length' : UInt16} {id id' : TransactionId}
    {body body' : Bytes} (h : frame type length id body = frame type' length' id' body') :
    type = type' ∧ length = length' ∧ id = id' ∧ body = body' := by
  rw [frame_eq, frame_eq] at h
  have hheader := congrArg Header.of h
  rw [Header.of_append, Header.of_append, Header.mk.injEq] at hheader
  obtain ⟨htype, hlength, -, hid⟩ := hheader
  exact ⟨htype, hlength, hid, List.append_inj_right h (by simp)⟩

/-- A field is read with a type that has a name exactly when it has its code. -/
theorem Field.type_attribute_eq_iff (f : Field) (type : AttributeType) (named : type.IsCanonical) :
    f.attribute.type = type ↔ f.code = type.code := by
  constructor
  · rintro rfl
    exact (AttributeType.code_ofCode f.code).symm
  · intro hcode
    show AttributeType.ofCode f.code = type
    rw [hcode]
    exact type.canonical_eq_self_iff.2 named

/-- Attributes that end with the first MESSAGE-INTEGRITY, and the bytes that hold them. -/
structure EndsWithIntegrity (bytes : Bytes) (front : List Field) (f : Field) : Prop where
  spells : Spells headerLength bytes (front ++ [f])
  first : ∀ g ∈ front, g.code ≠ AttributeType.messageIntegrity.code
  code : f.code = AttributeType.messageIntegrity.code

/-- What the first MESSAGE-INTEGRITY must be in messages of this type and transaction id, and whether
it is. -/
def Field.matches (f : Field) (type : UInt16) (id : TransactionId) (bytes key : Bytes) : Bool :=
  f.value == Digest.Hmac.sha1 key
    (frame type (UInt16.ofNat (f.offset - headerLength + 24)) id
      (bytes.take (f.offset - headerLength)))

namespace EndsWithIntegrity

variable {type length : UInt16} {id : TransactionId} {bytes : Bytes} {front : List Field} {f : Field}

theorem verifyIntegrity_frame (h : EndsWithIntegrity bytes front f) {behind : Bytes}
    {trailing : List Field} (hbehind : Spells (headerLength + bytes.length) behind trailing)
    (htrailing : ∀ g ∈ trailing, g.code = AttributeType.fingerprint.code) (low : type < 0x4000)
    (whole : length.toNat = (bytes ++ behind).length) (key : Bytes) :
    verifyIntegrity (frame type length id (bytes ++ behind)) key = f.matches type id bytes key := by
  have hfields := (h.spells.append hbehind).fields_frame low whole id
  rw [List.append_assoc, List.singleton_append] at hfields
  obtain ⟨front', rest', hplace, hoffset, hlow⟩ :=
    h.spells.exists_around (List.mem_append_right front (List.mem_singleton_self f))
  have hin : f.offset - headerLength ≤ bytes.length := by
    rw [hplace, List.length_append, List.length_append]
    omega
  have hcover : (frame type length id (bytes ++ behind)).take f.offset =
      frame type length id (bytes.take (f.offset - headerLength)) := by
    conv => lhs; rw [← Nat.add_sub_cancel' hlow]
    rw [take_frame, List.take_append_of_le_length hin]
  have hall : trailing.all (·.code == AttributeType.fingerprint.code) = true := by
    simpa using htrailing
  rw [verifyIntegrity_of_first hfields h.first h.code, hall, Bool.true_and, hcover,
    withLength_frame, Field.matches]

/-- A message that agrees with these attributes up to the first MESSAGE-INTEGRITY, but for its length,
and goes on with nothing but FINGERPRINT. -/
theorem verifyIntegrity_of_cut (h : EndsWithIntegrity bytes front f) {raw : Bytes} {m : Message}
    (hdecode : Message.decode raw = .ok m)
    (hcut : withLength (raw.take (headerLength + bytes.length)) bytes.length =
      frame type (UInt16.ofNat bytes.length) id bytes)
    (htrailing : ∀ x ∈ m.attributes.drop (front.length + 1), x.type = .fingerprint) (key : Bytes) :
    verifyIntegrity raw key = f.matches type id bytes key := by
  obtain @⟨type', length', id', body, found, low, whole, attributes⟩ :=
    Message.decode_eq_ok_iff.1 hdecode
  rw [take_frame, withLength_frame] at hcut
  obtain ⟨rfl, -, rfl, hbytes⟩ := frame_inj hcut
  have hprefix : bytes <+: body := hbytes ▸ List.take_prefix _ body
  obtain ⟨behind, rfl⟩ := hprefix
  obtain ⟨trailing, rfl, hbehind⟩ := h.spells.exists_more attributes
  refine h.verifyIntegrity_frame hbehind (fun g hg => ?_) low whole key
  apply (g.type_attribute_eq_iff .fingerprint trivial).1
  apply htrailing
  have hdrop : ((front ++ [f] ++ trailing).map Field.attribute).drop (front.length + 1) =
      trailing.map Field.attribute := by
    rw [List.map_append]
    exact List.drop_left' (by simp)
  rw [hdrop]
  exact List.mem_map_of_mem hg

end EndsWithIntegrity

/-- A message with a MESSAGE-INTEGRITY, taken apart behind the first one. -/
theorem Message.exists_endsWithIntegrity {raw : Bytes} {m : Message} {front trailing : List Attribute}
    {a : Attribute} (h : decode raw = .ok m) (hm : m.attributes = front ++ a :: trailing)
    (hfront : ∀ x ∈ front, x.type ≠ .messageIntegrity) (ha : a.type = .messageIntegrity) :
    ∃ type length id bytes behind fields f, raw = frame type length id (bytes ++ behind) ∧
      EndsWithIntegrity bytes fields f ∧ type < 0x4000 ∧ bytes.length ≤ lengthLimit ∧
      m.messageClass = (unpackType type).1 ∧ m.method = (unpackType type).2 ∧
      m.transactionId = id ∧ (fields ++ [f]).map Field.attribute = front ++ [a] := by
  obtain @⟨type, length, id, body, found, low, whole, attributes⟩ := decode_eq_ok_iff.1 h
  obtain ⟨fields, rest, rfl, rfl, hrest⟩ := List.map_eq_append_iff.1 hm
  obtain ⟨f, behind', rfl, rfl, -⟩ := List.map_eq_cons_iff.1 hrest
  rw [List.append_cons] at attributes
  obtain ⟨bytes, behind, rfl, hbytes, -⟩ := attributes.exists_split
  have hlt := length.toNat_lt
  rw [whole, List.length_append] at hlt
  refine ⟨type, length, id, bytes, behind, fields, f, rfl, ⟨hbytes, fun g hg hcode => ?_, ?_⟩, low,
    by unfold lengthLimit; omega, rfl, rfl, rfl, List.map_append⟩
  · exact hfront _ (List.mem_map_of_mem hg) ((g.type_attribute_eq_iff .messageIntegrity trivial).2 hcode)
  · exact (f.type_attribute_eq_iff .messageIntegrity trivial).1 ha

/-- Cut behind its first MESSAGE-INTEGRITY, with the length that it then has, a message is still read,
and that attribute is right under a key exactly when it was. It is right in all messages at once that
agree up to there, but for their length, and go on with nothing but FINGERPRINT. -/
theorem integrity_ignores_trailing {raw : Bytes} {m : Message} {front trailing : List Attribute}
    {a : Attribute} (h : Message.decode raw = .ok m) (hm : m.attributes = front ++ a :: trailing)
    (hfront : ∀ x ∈ front, x.type ≠ .messageIntegrity) (ha : a.type = .messageIntegrity)
    (htrailing : ∀ x ∈ trailing, x.type = .fingerprint) :
    let n := bodyLength (front ++ [a])
    let cut := withLength (raw.take (headerLength + n)) n
    cut.length = headerLength + n ∧
    Message.decode cut = .ok { m with attributes := front ++ [a] } ∧
    (∀ key, verifyIntegrity raw key = verifyIntegrity cut key) ∧
    ∀ raw' m', Message.decode raw' = .ok m' →
      withLength (raw'.take (headerLength + n)) n = cut →
      (∀ x ∈ m'.attributes.drop (front.length + 1), x.type = .fingerprint) →
      ∀ key, verifyIntegrity raw' key = verifyIntegrity raw key := by
  intro n cut
  obtain ⟨type, length, id, bytes, behind, fields, f, hraw, hends, low, small, hclass, hmethod, hid,
    hfields⟩ := Message.exists_endsWithIntegrity h hm hfront ha
  have hn : n = bytes.length := by rw [← hends.spells.bodyLength_eq, hfields]
  have hcount : front.length = fields.length := by
    have := congrArg List.length hfields
    simpa using this.symm
  have hcut : cut = frame type (UInt16.ofNat bytes.length) id bytes := by
    show withLength (raw.take (headerLength + n)) n = _
    rw [hn, hraw, take_frame, withLength_frame, List.take_left]
  have hdecode : Message.decode cut = .ok { m with attributes := front ++ [a] } := by
    rw [hcut, Message.decode_eq_ok_iff, hclass, hmethod, hid, ← hfields]
    exact .intro low (toNat_ofNat_of_le small) hends.spells
  have hright : ∀ raw' m', Message.decode raw' = .ok m' →
      withLength (raw'.take (headerLength + n)) n = cut →
      (∀ x ∈ m'.attributes.drop (front.length + 1), x.type = .fingerprint) →
      ∀ key, verifyIntegrity raw' key = f.matches type id bytes key := by
    intro raw' m' h' hsame htrailing' key
    rw [hn, hcut] at hsame
    rw [hcount] at htrailing'
    exact hends.verifyIntegrity_of_cut h' hsame htrailing' key
  have hself : ∀ key, verifyIntegrity raw key = f.matches type id bytes key := by
    refine hright raw m h rfl ?_
    rw [hm, List.append_cons, List.drop_left' (by simp)]
    exact htrailing
  refine ⟨?_, hdecode, fun key => ?_, fun raw' m' h' hsame htrailing' key => ?_⟩
  · rw [hcut, length_frame, hn]
  · have hwhole : withLength (cut.take (headerLength + n)) n = cut := by
      rw [hcut, hn, take_frame, withLength_frame, List.take_length]
    have hnone : ∀ x ∈ (front ++ [a]).drop (front.length + 1), x.type = .fingerprint := by
      rw [List.drop_of_length_le (by simp)]
      simp
    rw [hself key, hright cut _ hdecode hwhole hnone key]
  · rw [hself key]
    exact hright raw' m' h' hsame htrailing' key

/-- A signed message verifies without its FINGERPRINT. -/
theorem integrity_ignores_trailing_signed :
    let m : Message := ⟨.request, .binding, Vector.replicate 12 0, [⟨.software, [0x61]⟩]⟩
    let raw := (m.signed [1, 2]).written
    (∃ read, Message.decode (withLength (raw.take 52) 32) = .ok read ∧
      read.attributes.map Attribute.type = [.software, .messageIntegrity]) ∧
    verifyIntegrity (withLength (raw.take 52) 32) [1, 2] = true := by
  intro m raw
  have fits : ∀ a ∈ m.unsigned, a.value.length ≤ lengthLimit := by decide
  have small : bodyLength m.unsigned + 32 ≤ lengthLimit := by decide
  have hright : verifyIntegrity raw [1, 2] = true :=
    (Message.verifyIntegrity_signed fits small [1, 2]).2 (by decide)
  obtain ⟨code, mark, hcode, hread⟩ : ∃ code mark : Bytes, code.length = 20 ∧
      Message.decode raw = .ok ⟨.request, .binding, Vector.replicate 12 0,
        [⟨.software, [0x61]⟩] ++ ⟨.messageIntegrity, code⟩ :: [⟨.fingerprint, mark⟩]⟩ := by
    refine ⟨(integrity [1, 2] m.integrityCover).value,
      (fingerprint (m.fingerprintCover [1, 2])).value, rfl, ?_⟩
    rw [Message.decode_signed fits small, Message.canonical_signed]
    rfl
  have hn : bodyLength ([⟨.software, [0x61]⟩] ++ [⟨.messageIntegrity, code⟩]) = 32 := by
    rw [bodyLength_append, bodyLength, bodyLength, bodyLength, hcode]
    rfl
  obtain ⟨-, hcut, hsame, -⟩ :=
    integrity_ignores_trailing hread rfl (by decide) rfl (by simp)
  rw [hn] at hcut hsame
  exact ⟨⟨_, hcut, rfl⟩, (hsame [1, 2]).symm.trans hright⟩

end MediaSocket.Stun
