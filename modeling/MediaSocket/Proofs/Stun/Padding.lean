import MediaSocket.Proofs.Stun.RoundTrip

/-! Reading a message and writing it again: every byte comes back except the padding behind the values,
of which any content is read and only zeros are written. -/

namespace MediaSocket.Stun

/-- Whether a place in a message belongs to the padding behind the value of an attribute. -/
def Field.Pads (f : Field) (i : Nat) : Prop :=
  f.offset + 4 + f.value.length ≤ i ∧ i < f.offset + 4 + paddedLength f.value.length

instance (f : Field) (i : Nat) : Decidable (f.Pads i) := inferInstanceAs (Decidable (_ ∧ _))

/-- Whether a place in a message is padding. -/
def IsPadding (raw : Bytes) (i : Nat) : Prop :=
  ∃ found, fields raw = .ok found ∧ ∃ f ∈ found, f.Pads i

theorem Spells.offset_le {offset : Nat} {bytes : Bytes} {found : List Field}
    (h : Spells offset bytes found) {f : Field} (hf : f ∈ found) : offset ≤ f.offset := by
  obtain ⟨front, rest, -, -, hle⟩ := h.exists_around hf
  exact hle

theorem getElem?_append_append (front middle back : Bytes) (i : Nat) :
    (front ++ (middle ++ back))[i]? =
      if i < front.length then front[i]?
      else if i < front.length + middle.length then middle[i - front.length]?
      else back[i - (front.length + middle.length)]? := by
  rw [List.getElem?_append, List.getElem?_append, ← Nat.sub_sub]
  split
  · rfl
  · split <;> split <;> first | rfl | omega

theorem Field.bytes_attribute (f : Field) :
    f.attribute.bytes = (Bytes.ofUInt16 f.code ++ Bytes.ofUInt16 (UInt16.ofNat f.value.length) ++
      f.value) ++ List.replicate (paddingLength f.value.length) 0 := by
  rw [Attribute.bytes, Field.attribute, AttributeType.code_ofCode]

/-- Attributes that are read and written again differ from before in their padding only. -/
theorem Spells.getElem?_rewritten {offset : Nat} {bytes : Bytes} {found : List Field}
    (h : Spells offset bytes found) (i : Nat) :
    ((found.map Field.attribute).flatMap Attribute.bytes)[i]? =
      if ∃ f ∈ found, f.Pads (offset + i) then some 0 else bytes[i]? := by
  induction h generalizing i with
  | nil => simp
  | @cons offset code value padding rest found fits padded more ih =>
    have hfront : (Bytes.ofUInt16 code ++ Bytes.ofUInt16 (UInt16.ofNat value.length) ++
        value).length = 4 + value.length := by
      simp only [List.length_append, Bytes.length_ofUInt16]
    have hself : (⟨offset, code, value⟩ : Field).Pads (offset + i) ↔
        4 + value.length ≤ i ∧ i < 4 + value.length + paddingLength value.length := by
      show offset + 4 + value.length ≤ offset + i ∧
        offset + i < offset + 4 + paddedLength value.length ↔ _
      unfold paddedLength
      omega
    have hpads : (∃ f ∈ ⟨offset, code, value⟩ :: found, f.Pads (offset + i)) ↔
        (4 + value.length ≤ i ∧ i < 4 + value.length + paddingLength value.length) ∨
          ∃ f ∈ found, f.Pads (offset + i) := by
      rw [← hself]
      simp only [List.mem_cons, exists_eq_or_imp]
    have hbehind : (∃ f ∈ found, f.Pads (offset + i)) →
        4 + value.length + paddingLength value.length ≤ i := by
      rintro ⟨f, hf, hlow, -⟩
      have hnext := more.offset_le hf
      unfold paddedLength at hnext
      omega
    rw [List.map_cons, List.flatMap_cons, Field.bytes_attribute, List.append_assoc _ padding,
      List.append_assoc _ (List.replicate _ 0), getElem?_append_append, getElem?_append_append,
      hfront, List.length_replicate, padded]
    rcases Nat.lt_or_ge i (4 + value.length) with hi | hi
    · rw [if_pos hi, if_pos hi, if_neg]
      rw [hpads]
      rintro (⟨hlow, -⟩ | hrest)
      · omega
      · have := hbehind hrest
        omega
    · rw [if_neg (Nat.not_lt.2 hi), if_neg (Nat.not_lt.2 hi)]
      rcases Nat.lt_or_ge i (4 + value.length + paddingLength value.length) with hi' | hi'
      · rw [if_pos hi', if_pos (hpads.2 (.inl ⟨hi, hi'⟩)),
          List.getElem?_replicate_of_lt (Nat.sub_lt_left_of_lt_add hi hi')]
      · rw [if_neg (Nat.not_lt.2 hi'), if_neg (Nat.not_lt.2 hi'), ih]
        have hplace : offset + 4 + paddedLength value.length +
            (i - (4 + value.length + paddingLength value.length)) = offset + i := by
          unfold paddedLength
          omega
        rw [hplace]
        have hnone : ¬(4 + value.length ≤ i ∧
            i < 4 + value.length + paddingLength value.length) := by omega
        simp only [hpads, hnone, false_or]

/-- The header has no padding. -/
theorem Spells.getElem?_frame_rewritten {body : Bytes} {found : List Field}
    (h : Spells headerLength body found) (type length : UInt16) (id : TransactionId) (i : Nat) :
    (frame type length id ((found.map Field.attribute).flatMap Attribute.bytes))[i]? =
      if ∃ f ∈ found, f.Pads i then some 0 else (frame type length id body)[i]? := by
  have hheader : (⟨type, length, magicCookie, id⟩ : Header).bytes.length = headerLength :=
    Header.length_bytes _
  rw [frame_eq, frame_eq]
  rcases Nat.lt_or_ge i headerLength with hi | hi
  · rw [List.getElem?_append_left (by omega), List.getElem?_append_left (by omega), if_neg]
    rintro ⟨f, hf, hlow, -⟩
    have := h.offset_le hf
    omega
  · have hplace : headerLength + (i - headerLength) = i := by omega
    rw [List.getElem?_append_right (by omega), List.getElem?_append_right (by omega), hheader,
      h.getElem?_rewritten, hplace]

namespace Message

/-- What a message that has been read is written as. -/
theorem exists_written {raw : Bytes} {m : Message} (h : decode raw = .ok m) :
    ∃ type length id body found, raw = frame type length id body ∧ fields raw = .ok found ∧
      Spells headerLength body found ∧ body.length ≤ lengthLimit ∧
      m.attributes = found.map Field.attribute ∧
      m.written = frame type length id ((found.map Field.attribute).flatMap Attribute.bytes) := by
  obtain @⟨type, length, id, body, found, low, whole, attributes⟩ := decode_eq_ok_iff.1 h
  have hlength : UInt16.ofNat (bodyLength (found.map Field.attribute)) = length := by
    rw [attributes.bodyLength_eq, ← whole, UInt16.ofNat_toNat]
  refine ⟨type, length, id, body, found, rfl, attributes.fields_frame low whole id, attributes, ?_,
    rfl, ?_⟩
  · have hlt := length.toNat_lt
    unfold lengthLimit
    omega
  · rw [written_eq_frame]
    show frame (packType (unpackType type).1 (unpackType type).2)
      (UInt16.ofNat (bodyLength (found.map Field.attribute))) id _ = _
    rw [packType_unpackType low, hlength]

/-- What has been read fits the length fields. -/
theorem fits_of_decode {raw : Bytes} {m : Message} (h : decode raw = .ok m) :
    (∀ a ∈ m.attributes, a.value.length ≤ lengthLimit) ∧ bodyLength m.attributes ≤ lengthLimit := by
  obtain ⟨type, length, id, body, found, -, -, attributes, small, hm, -⟩ := exists_written h
  rw [hm, attributes.bodyLength_eq]
  refine ⟨fun a ha => ?_, small⟩
  obtain ⟨f, hf, rfl⟩ := List.mem_map.1 ha
  exact attributes.length_value_le f hf

theorem length_written_of_decode {raw : Bytes} {m : Message} (h : decode raw = .ok m) :
    m.written.length = raw.length := by
  obtain ⟨type, length, id, body, found, rfl, -, attributes, -, -, hwritten⟩ := exists_written h
  rw [hwritten, length_frame, length_frame, length_flatMap_bytes, attributes.bodyLength_eq]

theorem getElem?_written_of_decode {raw : Bytes} {m : Message} (h : decode raw = .ok m) (i : Nat) :
    (IsPadding raw i → m.written[i]? = some 0) ∧ (¬IsPadding raw i → m.written[i]? = raw[i]?) := by
  obtain ⟨type, length, id, body, found, hraw, hfields, attributes, -, -, hwritten⟩ :=
    exists_written h
  have hpadding : IsPadding raw i ↔ ∃ f ∈ found, f.Pads i := by
    simp only [IsPadding, hfields, Except.ok.injEq, exists_eq_left']
  have hi := attributes.getElem?_frame_rewritten type length id i
  rw [← hwritten, ← hraw] at hi
  rw [hpadding, hi]
  exact ⟨fun hpads => if_pos hpads, fun hnone => if_neg hnone⟩

end Message

/-- A message that has been read can be written, and is then read as before. Every byte comes back
except the padding, which becomes zero; the same bytes come back exactly when it was. -/
theorem decode_then_encode {raw : Bytes} {m : Message} (h : Message.decode raw = .ok m) :
    ∃ raw', m.encode = .ok raw' ∧ raw'.length = raw.length ∧
      (∀ i, IsPadding raw i → raw'[i]? = some 0) ∧
      (∀ i, ¬IsPadding raw i → raw'[i]? = raw[i]?) ∧
      (m.encode = .ok raw ↔ ∀ i, IsPadding raw i → raw[i]? = some 0) ∧
      Message.decode raw' = .ok m := by
  obtain ⟨fits, small⟩ := Message.fits_of_decode h
  have hencode := Message.encode_fit fits small
  have hbytes := Message.getElem?_written_of_decode h
  refine ⟨m.written, hencode, Message.length_written_of_decode h, fun i => (hbytes i).1,
    fun i => (hbytes i).2, ⟨?_, ?_⟩, ?_⟩
  · intro hsame i hi
    rw [hencode, Except.ok.injEq] at hsame
    rw [← hsame]
    exact (hbytes i).1 hi
  · intro hzero
    rw [hencode, Except.ok.injEq]
    apply List.ext_getElem?
    intro i
    by_cases hi : IsPadding raw i
    · rw [(hbytes i).1 hi, hzero i hi]
    · exact (hbytes i).2 hi
  · rw [Message.decode_written fits small,
      m.canonical_eq_self_iff.2 (Message.isCanonical_of_decode h)]

/-- Three bytes of padding are read whatever they are, and written as zeros. -/
theorem decode_then_encode_zeros :
    let raw : Bytes := [0x00, 0x01, 0x00, 0x08, 0x21, 0x12, 0xA4, 0x42] ++ List.replicate 12 0 ++
      [0x80, 0x22, 0x00, 0x01, 0x61, 0x01, 0x02, 0x03]
    let m : Message := ⟨.request, .binding, Vector.replicate 12 0, [⟨.software, [0x61]⟩]⟩
    Message.decode raw = .ok m ∧ ∃ raw', m.encode = .ok raw' ∧ raw'.length = 28 ∧
      raw'[24]? = some 0x61 ∧ raw'[25]? = some 0 ∧ m.encode ≠ .ok raw ∧
      Message.decode raw' = .ok m := by
  intro raw m
  have hspells : Spells headerLength [0x80, 0x22, 0x00, 0x01, 0x61, 0x01, 0x02, 0x03]
      [⟨20, 0x8022, [0x61]⟩] :=
    @Spells.cons 20 0x8022 [0x61] [0x01, 0x02, 0x03] [] [] (by decide) rfl .nil
  have hdecode : Message.decode raw = .ok m :=
    Message.decode_eq_ok_iff.2 (@Spelling.intro 0x0001 8 (Vector.replicate 12 0) _ _ (by decide) rfl hspells)
  have hfields : fields raw = .ok [⟨20, 0x8022, [0x61]⟩] :=
    @Spells.fields_frame 0x0001 8 _ _ hspells (by decide) rfl (Vector.replicate 12 0)
  have hpadding : IsPadding raw 25 := ⟨_, hfields, _, List.mem_singleton_self _, by decide⟩
  have hvalue : ¬IsPadding raw 24 := by
    simp only [IsPadding, hfields, Except.ok.injEq, exists_eq_left', List.mem_singleton,
      exists_eq_left]
    decide
  obtain ⟨raw', hencode, hlength, hzero, hkept, hsame, hdecode'⟩ := decode_then_encode hdecode
  refine ⟨hdecode, raw', hencode, hlength, hkept 24 hvalue, hzero 25 hpadding, ?_, hdecode'⟩
  rw [ne_eq, hsame]
  intro hzeros
  exact absurd (hzeros 25 hpadding) (by decide)

end MediaSocket.Stun
