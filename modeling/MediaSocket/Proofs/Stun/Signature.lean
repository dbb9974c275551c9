import MediaSocket.Proofs.Stun.RoundTrip
import Mathlib.Algebra.GroupWithZero.Nat

/-! Signed messages. Signing writes a message with MESSAGE-INTEGRITY and FINGERPRINT behind the
attributes that it keeps, so that it is read as any other message; the FINGERPRINT is always right,
and the MESSAGE-INTEGRITY is unless a kept attribute has its code. -/

namespace MediaSocket.Stun

theorem lengthField_fit {n : Nat} (h : n ≤ lengthLimit) : lengthField n = .ok (UInt16.ofNat n) :=
  if_pos h

theorem lengthField_large {n : Nat} (h : lengthLimit < n) :
    lengthField n = .error (.messageTooLong n) :=
  if_neg (Nat.not_le.2 h)

theorem bodyLength_eq_sum (attributes : List Attribute) :
    bodyLength attributes =
      (attributes.map fun a => 4 + (a.value.length + 3) / 4 * 4).sum := by
  induction attributes with
  | nil => rfl
  | cons a rest ih => rw [bodyLength, ih, paddedLength_eq, List.map_cons, List.sum_cons]

theorem length_integrity (key covered : Bytes) : (integrity key covered).value.length = 20 := rfl

theorem length_fingerprint (covered : Bytes) : (fingerprint covered).value.length = 4 := rfl

namespace Message

theorem unsigned_eq (m : Message) :
    m.unsigned = m.attributes.filter fun a => a.type ≠ .messageIntegrity ∧ a.type ≠ .fingerprint := by
  refine List.filter_congr fun a _ => ?_
  rw [Bool.eq_iff_iff]
  simp

/-- What MESSAGE-INTEGRITY is computed over. -/
def integrityCover (m : Message) : Bytes :=
  m.header (UInt16.ofNat (bodyLength m.unsigned + 24)) ++ m.unsigned.flatMap Attribute.bytes

/-- What FINGERPRINT is computed over. -/
def fingerprintCover (m : Message) (key : Bytes) : Bytes :=
  m.header (UInt16.ofNat (bodyLength m.unsigned + 32)) ++
    (m.unsigned ++ [integrity key m.integrityCover]).flatMap Attribute.bytes

/-- The message that a signed one is written as. -/
def signed (m : Message) (key : Bytes) : Message :=
  { m with
    attributes := m.unsigned ++
      [integrity key m.integrityCover, fingerprint (m.fingerprintCover key)] }

theorem bodyLength_signed (m : Message) (key : Bytes) :
    bodyLength (m.signed key).attributes = bodyLength m.unsigned + 32 := by
  rw [signed, bodyLength_append, bodyLength, bodyLength, bodyLength, length_integrity,
    length_fingerprint]
  rfl

theorem signed_fit {m : Message} (fits : ∀ a ∈ m.unsigned, a.value.length ≤ lengthLimit)
    (key : Bytes) : ∀ a ∈ (m.signed key).attributes, a.value.length ≤ lengthLimit := by
  intro a ha
  rcases List.mem_append.1 ha with hkept | htrailer
  · exact fits a hkept
  · simp only [List.mem_cons, List.not_mem_nil, or_false] at htrailer
    rcases htrailer with rfl | rfl
    · rw [length_integrity]
      decide
    · rw [length_fingerprint]
      decide

theorem fingerprintCover_eq (m : Message) (key : Bytes) :
    m.fingerprintCover key = m.header (UInt16.ofNat (bodyLength m.unsigned + 32)) ++
      (m.unsigned.flatMap Attribute.bytes ++ (integrity key m.integrityCover).bytes) := by
  rw [fingerprintCover, List.flatMap_append, List.flatMap_singleton]

theorem written_signed (m : Message) (key : Bytes) :
    (m.signed key).written =
      m.fingerprintCover key ++ (fingerprint (m.fingerprintCover key)).bytes := by
  have hattributes : (m.signed key).attributes.flatMap Attribute.bytes =
      m.unsigned.flatMap Attribute.bytes ++ ((integrity key m.integrityCover).bytes ++
        (fingerprint (m.fingerprintCover key)).bytes) := by
    rw [signed, List.flatMap_append, List.flatMap_cons, List.flatMap_singleton]
  rw [written, bodyLength_signed, hattributes, fingerprintCover_eq]
  simp only [List.append_assoc]
  rfl

/-- The length that is written last counts both trailing attributes. -/
theorem signedLength (n : Nat) (key covered : Bytes) :
    n + (4 + paddedLength (integrity key covered).value.length) + 8 = n + 32 := by
  rw [length_integrity]
  rfl

theorem encodeSigned_fit {m : Message} (fits : ∀ a ∈ m.unsigned, a.value.length ≤ lengthLimit)
    (small : bodyLength m.unsigned + 32 ≤ lengthLimit) (key : Bytes) :
    m.encodeSigned key = .ok (m.signed key).written := by
  have hbody := length_flatMap_bytes m.unsigned
  have hfirst := lengthField_fit (show bodyLength m.unsigned + 24 ≤ lengthLimit by omega)
  have hsecond := lengthField_fit small
  rw [written_signed]
  simp only [encodeSigned, encodeAttributes_fit fits, bind, Except.bind, hbody, hfirst,
    List.length_append, Attribute.length_bytes]
  rw [← integrityCover, signedLength, hsecond, fingerprintCover_eq]
  rfl

/-- The trailing attributes count for the length even when they cannot be written any more. -/
theorem encodeSigned_messageTooLong {m : Message}
    (fits : ∀ a ∈ m.unsigned, a.value.length ≤ lengthLimit)
    (large : lengthLimit < bodyLength m.unsigned + 32) (key : Bytes) :
    ∃ n, m.encodeSigned key = .error (.messageTooLong n) := by
  have hbody := length_flatMap_bytes m.unsigned
  obtain hfirst | hfirst := Nat.lt_or_ge lengthLimit (bodyLength m.unsigned + 24)
  · refine ⟨bodyLength m.unsigned + 24, ?_⟩
    simp only [encodeSigned, encodeAttributes_fit fits, bind, Except.bind, hbody,
      lengthField_large hfirst]
  · refine ⟨bodyLength m.unsigned + 32, ?_⟩
    simp only [encodeSigned, encodeAttributes_fit fits, bind, Except.bind, hbody,
      lengthField_fit hfirst, List.length_append, Attribute.length_bytes]
    rw [← integrityCover, signedLength, lengthField_large large]

theorem encodeSigned_attributeTooLong {m : Message} {front rest : List Attribute} {a : Attribute}
    (hm : m.unsigned = front ++ a :: rest)
    (fits : ∀ b ∈ front, b.value.length ≤ lengthLimit) (long : lengthLimit < a.value.length)
    (key : Bytes) :
    m.encodeSigned key = .error (.attributeTooLong a.type.code a.value.length) := by
  rw [encodeSigned, hm, encodeAttributes_tooLong fits long]
  rfl

theorem encodeSigned_eq_ok_iff {m : Message} {key raw : Bytes} :
    m.encodeSigned key = .ok raw ↔ (∀ a ∈ m.unsigned, a.value.length ≤ lengthLimit) ∧
      bodyLength m.unsigned + 32 ≤ lengthLimit ∧ raw = (m.signed key).written := by
  constructor
  · intro h
    obtain ⟨fits, -⟩ | ⟨front, a, rest, hm, fits, long⟩ | ⟨fits, large⟩ := size_cases m.unsigned
    · obtain large | small := Nat.lt_or_ge lengthLimit (bodyLength m.unsigned + 32)
      · obtain ⟨n, hn⟩ := encodeSigned_messageTooLong fits large key
        rw [hn] at h
        cases h
      · rw [encodeSigned_fit fits small] at h
        cases h
        exact ⟨fits, small, rfl⟩
    · rw [encodeSigned_attributeTooLong hm fits long] at h
      cases h
    · obtain ⟨n, hn⟩ := encodeSigned_messageTooLong fits (by omega) key
      rw [hn] at h
      cases h
  · rintro ⟨fits, small, rfl⟩
    exact encodeSigned_fit fits small key

theorem fields_signed {m : Message} (fits : ∀ a ∈ m.unsigned, a.value.length ≤ lengthLimit)
    (small : bodyLength m.unsigned + 32 ≤ lengthLimit) (key : Bytes) :
    fields (m.signed key).written = .ok (placed headerLength m.unsigned ++
      [⟨headerLength + bodyLength m.unsigned, AttributeType.messageIntegrity.code,
          Digest.Hmac.sha1 key m.integrityCover⟩,
        ⟨headerLength + bodyLength m.unsigned + 24, AttributeType.fingerprint.code,
          fingerprintValue (m.fingerprintCover key)⟩]) := by
  have hsmall : bodyLength (m.signed key).attributes ≤ lengthLimit := by
    rw [bodyLength_signed]
    exact small
  rw [fields_written (signed_fit fits key) hsmall, signed, placed_append, placed, placed, placed,
    length_integrity]
  rfl

theorem length_header (m : Message) (length : UInt16) : (m.header length).length = headerLength := by
  simp [header, headerLength]

theorem length_fingerprintCover (m : Message) (key : Bytes) :
    (m.fingerprintCover key).length = headerLength + bodyLength m.unsigned + 24 := by
  rw [fingerprintCover, List.length_append, length_header, length_flatMap_bytes, bodyLength_append,
    bodyLength, bodyLength, length_integrity, ← Nat.add_assoc]
  rfl

theorem verifyFingerprint_signed {m : Message}
    (fits : ∀ a ∈ m.unsigned, a.value.length ≤ lengthLimit)
    (small : bodyLength m.unsigned + 32 ≤ lengthLimit) (key : Bytes) :
    verifyFingerprint (m.signed key).written = true := by
  have htake : (m.signed key).written.take (headerLength + bodyLength m.unsigned + 24) =
      m.fingerprintCover key := by
    rw [written_signed, List.take_left' (m.length_fingerprintCover key)]
  simp only [verifyFingerprint, fields_signed fits small, List.getLast?_append,
    List.getLast?_cons_cons, List.getLast?_singleton, Option.some_or, htake, beq_self_eq_true,
    Bool.and_self]

/-- With the length that it has when MESSAGE-INTEGRITY ends it, what stands before that attribute is
what was signed. -/
theorem withLength_signed (m : Message) (key : Bytes) :
    withLength ((m.signed key).written.take (headerLength + bodyLength m.unsigned))
      (headerLength + bodyLength m.unsigned - headerLength + 24) = m.integrityCover := by
  have hcover : (m.header (UInt16.ofNat (bodyLength m.unsigned + 32)) ++
      m.unsigned.flatMap Attribute.bytes).length = headerLength + bodyLength m.unsigned := by
    rw [List.length_append, length_header, length_flatMap_bytes]
  rw [written_signed, fingerprintCover_eq, ← List.append_assoc,
    List.append_assoc (_ ++ _) (Attribute.bytes _), List.take_left' hcover,
    Nat.add_sub_cancel_left]
  rfl

theorem verifyIntegrity_signed {m : Message}
    (fits : ∀ a ∈ m.unsigned, a.value.length ≤ lengthLimit)
    (small : bodyLength m.unsigned + 32 ≤ lengthLimit) (key : Bytes) :
    verifyIntegrity (m.signed key).written key = true ↔
      ∀ a ∈ m.unsigned, a.type.code ≠ AttributeType.messageIntegrity.code := by
  have hfields := fields_signed fits small key
  have hcodes : (∀ f ∈ placed headerLength m.unsigned,
      f.code ≠ AttributeType.messageIntegrity.code) ↔
        ∀ a ∈ m.unsigned, a.type.code ≠ AttributeType.messageIntegrity.code := by
    rw [← List.forall_mem_map (f := Field.code) (P := (· ≠ _)), map_code_placed, List.forall_mem_map]
  rw [← hcodes]
  obtain hnone | ⟨front, f, trailing, hplaced, hfront, hf⟩ :=
    all_ne_or_first AttributeType.messageIntegrity.code (placed headerLength m.unsigned)
  · rw [verifyIntegrity_of_first hfields hnone rfl, withLength_signed]
    simpa using hnone
  · rw [hplaced, List.append_assoc, List.cons_append] at hfields
    have hmem : f ∈ placed headerLength m.unsigned := by
      rw [hplaced]
      exact List.mem_append_right _ (List.mem_cons_self ..)
    have hsecond : (AttributeType.messageIntegrity.code == AttributeType.fingerprint.code) = false :=
      by decide
    -- The MESSAGE-INTEGRITY that signing adds stands behind another one.
    rw [verifyIntegrity_of_first hfields hfront hf, List.all_append, List.all_cons, hsecond,
      Bool.false_and, Bool.and_false, Bool.false_and]
    exact ⟨fun h => (Bool.false_ne_true h).elim, fun h => (h f hmem hf).elim⟩

theorem decode_signed {m : Message} (fits : ∀ a ∈ m.unsigned, a.value.length ≤ lengthLimit)
    (small : bodyLength m.unsigned + 32 ≤ lengthLimit) (key : Bytes) :
    decode (m.signed key).written = .ok (m.signed key).canonical := by
  have hsmall : bodyLength (m.signed key).attributes ≤ lengthLimit := by
    rw [bodyLength_signed]
    exact small
  exact decode_written (signed_fit fits key) hsmall

theorem canonical_signed (m : Message) (key : Bytes) :
    (m.signed key).canonical = ⟨m.messageClass, m.method.canonical, m.transactionId,
      m.unsigned.map Attribute.canonical ++
        [integrity key m.integrityCover, fingerprint (m.fingerprintCover key)]⟩ := by
  rw [canonical, signed, List.map_append]
  rfl

/-- A kept attribute has the code of MESSAGE-INTEGRITY only as a type without a name. -/
theorem integrity_code_iff (m : Message) :
    (∀ a ∈ m.unsigned, a.type.code ≠ AttributeType.messageIntegrity.code) ↔
      ∀ a ∈ m.attributes, a.type ≠ .other AttributeType.messageIntegrity.code := by
  constructor
  · intro h a ha htype
    refine h a (List.mem_filter.2 ⟨ha, ?_⟩) (by rw [htype]; rfl)
    rw [htype]
    rfl
  · intro h a ha hcode
    obtain ⟨hmem, hkept⟩ := List.mem_filter.1 ha
    have hnamed : AttributeType.messageIntegrity.IsCanonical := trivial
    obtain hsigned | hother := AttributeType.eq_or_other_of_code hnamed hcode
    · rw [hsigned] at hkept
      exact Bool.false_ne_true hkept
    · exact h a hmem hother

end Message

/-- Signing keeps the attributes that are neither MESSAGE-INTEGRITY nor FINGERPRINT, and succeeds
exactly when these fit with both of the new ones. The signed message is read as what is kept and these
two; its FINGERPRINT is right, and its MESSAGE-INTEGRITY is exactly when no kept attribute has the same
code. -/
theorem encodeSigned_verifies (m : Message) (key : Bytes) :
    let kept := m.attributes.filter fun a => a.type ≠ .messageIntegrity ∧ a.type ≠ .fingerprint
    ((∃ raw, m.encodeSigned key = .ok raw) ↔
      (∀ a ∈ kept, a.value.length ≤ 65535) ∧
        (kept.map fun a => 4 + (a.value.length + 3) / 4 * 4).sum + 32 ≤ 65535) ∧
    ∀ raw, m.encodeSigned key = .ok raw →
      (∃ code mark, code.length = 20 ∧ mark.length = 4 ∧
        Message.decode raw = .ok ⟨m.messageClass, m.method.canonical, m.transactionId,
          kept.map Attribute.canonical ++ [⟨.messageIntegrity, code⟩, ⟨.fingerprint, mark⟩]⟩) ∧
      verifyFingerprint raw = true ∧
      (verifyIntegrity raw key = true ↔ ∀ a ∈ kept, a.type.code ≠ 0x0008) ∧
      ((∀ a ∈ kept, a.type.code ≠ 0x0008) ↔ ∀ a ∈ m.attributes, a.type ≠ .other 0x0008) := by
  intro kept
  have hkept : m.unsigned = kept := m.unsigned_eq
  rw [← bodyLength_eq_sum, ← hkept]
  refine ⟨⟨?_, ?_⟩, ?_⟩
  · rintro ⟨raw, h⟩
    obtain ⟨fits, small, -⟩ := Message.encodeSigned_eq_ok_iff.1 h
    exact ⟨fits, small⟩
  · rintro ⟨fits, small⟩
    exact ⟨_, Message.encodeSigned_fit fits small key⟩
  · intro raw h
    obtain ⟨fits, small, rfl⟩ := Message.encodeSigned_eq_ok_iff.1 h
    have hdecode := Message.decode_signed fits small key
    rw [Message.canonical_signed] at hdecode
    exact ⟨⟨_, _, length_integrity _ _, length_fingerprint _, hdecode⟩,
      Message.verifyFingerprint_signed fits small key,
      Message.verifyIntegrity_signed fits small key, m.integrity_code_iff⟩

/-- A USERNAME and a SOFTWARE are kept and verify, in place of a MESSAGE-INTEGRITY between them. An
attribute that only has the code of MESSAGE-INTEGRITY is kept and does not verify. -/
theorem encodeSigned_verifies_software :
    let m (type : AttributeType) : Message := ⟨.request, .binding, Vector.replicate 12 0,
      [⟨.username, [0x75]⟩, ⟨type, [0x00]⟩, ⟨.software, [0x61]⟩]⟩
    (∃ raw code mark, (m .messageIntegrity).encodeSigned [1, 2] = .ok raw ∧
      Message.decode raw = .ok ⟨.request, .binding, Vector.replicate 12 0,
        [⟨.username, [0x75]⟩, ⟨.software, [0x61]⟩, ⟨.messageIntegrity, code⟩,
          ⟨.fingerprint, mark⟩]⟩ ∧
      verifyFingerprint raw = true ∧ verifyIntegrity raw [1, 2] = true) ∧
    ∃ raw code mark, (m (.other 0x0008)).encodeSigned [1, 2] = .ok raw ∧
      Message.decode raw = .ok ⟨.request, .binding, Vector.replicate 12 0,
        [⟨.username, [0x75]⟩, ⟨.messageIntegrity, [0x00]⟩, ⟨.software, [0x61]⟩,
          ⟨.messageIntegrity, code⟩, ⟨.fingerprint, mark⟩]⟩ ∧
      verifyFingerprint raw = true ∧ verifyIntegrity raw [1, 2] = false := by
  intro m
  constructor
  · obtain ⟨hok, hverifies⟩ := encodeSigned_verifies (m .messageIntegrity) [1, 2]
    obtain ⟨raw, hraw⟩ := hok.2 ⟨by decide, by decide⟩
    obtain ⟨⟨code, mark, -, -, hdecode⟩, hfingerprint, hintegrity, -⟩ := hverifies raw hraw
    exact ⟨raw, code, mark, hraw, hdecode, hfingerprint, hintegrity.2 (by decide)⟩
  · obtain ⟨hok, hverifies⟩ := encodeSigned_verifies (m (.other 0x0008)) [1, 2]
    obtain ⟨raw, hraw⟩ := hok.2 ⟨by decide, by decide⟩
    obtain ⟨⟨code, mark, -, -, hdecode⟩, hfingerprint, hintegrity, -⟩ := hverifies raw hraw
    refine ⟨raw, code, mark, hraw, hdecode, hfingerprint, ?_⟩
    rw [Bool.eq_false_iff, ne_eq, hintegrity]
    decide

end MediaSocket.Stun
