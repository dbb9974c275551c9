import MediaSocket.Proofs.Stun.Header

/-! Which bytes are messages: `fields` finds attributes exactly in the bytes of a frame around them,
and otherwise it fails with the first fault that `Refused` names. Which attribute decides whether a
signature is right follows from the attributes that are found. -/

namespace MediaSocket.Stun

theorem Spells.fields_frame {type length : UInt16} {body : Bytes} {found : List Field}
    (h : Spells headerLength body found) (low : type < 0x4000) (whole : length.toNat = body.length)
    (id : TransactionId) : fields (frame type length id body) = .ok found := by
  rw [Stun.fields_frame low id whole (whole ▸ h.four_dvd_length)]
  exact readFields_eq_ok_iff.2 h

theorem Refused.fields_eq {raw : Bytes} {e : Error} (h : Refused raw e) :
    fields raw = .error e := by
  cases h with
  | tooShort short => rw [fields, if_pos short]
  | notStun high => rw [fields_append, if_pos high]
  | badCookie low bad => rw [fields_append, if_neg (UInt16.not_le.2 low), if_pos bad]
  | lengthMismatch low mismatch =>
    rw [frame_eq, fields_append, if_neg (UInt16.not_le.2 low), if_neg (fun h => h rfl), if_pos]
    rcases mismatch with h | h
    · exact .inr h
    · exact .inl fun h0 => h (Nat.dvd_of_mod_eq_zero h0)
  | attributeOverrun low whole aligned before long =>
    rw [Stun.fields_frame low _ whole aligned, readFields_eq_error_iff]
    exact ⟨_, _, _, rfl, before, .long long, rfl⟩

/-- When the attributes take a multiple of four bytes, the first that does not fit has at least its
code and its length. -/
theorem Overruns.exists_words {rest : Bytes} (h : Overruns rest) (aligned : 4 ∣ rest.length) :
    ∃ code size tail, rest = Bytes.ofUInt16 code ++ Bytes.ofUInt16 size ++ tail ∧
      tail.length < paddedLength size.toNat := by
  cases h with
  | short nonempty short =>
    have hpos := List.length_pos_iff.2 nonempty
    omega
  | long long => exact ⟨_, _, _, rfl, long⟩

/-- All bytes are a message or have a first fault. -/
theorem exists_frame_or_refused (raw : Bytes) :
    (∃ type length id body found, raw = frame type length id body ∧ type < 0x4000 ∧
      length.toNat = body.length ∧ Spells headerLength body found) ∨ ∃ e, Refused raw e := by
  by_cases short : raw.length < headerLength
  · exact .inr ⟨_, .tooShort short⟩
  obtain ⟨⟨type, length, cookie, id⟩, body, rfl⟩ := exists_header (Nat.le_of_not_lt short)
  by_cases high : 0x4000 ≤ type
  · exact .inr ⟨_, .notStun high⟩
  have low : type < 0x4000 := UInt16.not_le.1 high
  by_cases bad : cookie = magicCookie
  · subst bad
    by_cases mismatch : length.toNat ≠ body.length ∨ ¬4 ∣ length.toNat
    · exact .inr ⟨_, .lengthMismatch low mismatch⟩
    obtain ⟨hwhole, haligned⟩ := not_or.1 mismatch
    have whole : length.toNat = body.length := Decidable.not_not.1 hwhole
    have aligned : 4 ∣ length.toNat := Decidable.not_not.1 haligned
    obtain ⟨front, found, rest, rfl, before, rfl | hover⟩ := exists_spells headerLength body
    · rw [List.append_nil] at whole
      exact .inl ⟨type, length, id, front, found, by rw [List.append_nil]; rfl, low, whole, before⟩
    · have hrest : 4 ∣ rest.length := by
        have hfront := before.four_dvd_length
        rw [List.length_append] at whole
        omega
      obtain ⟨code, size, tail, rfl, long⟩ := hover.exists_words hrest
      exact .inr ⟨_, .attributeOverrun low whole aligned before long⟩
  · exact .inr ⟨_, .badCookie low bad⟩

theorem fields_eq_ok_iff {raw : Bytes} {found : List Field} :
    fields raw = .ok found ↔
      ∃ type length id body, raw = frame type length id body ∧ type < 0x4000 ∧
        length.toNat = body.length ∧ Spells headerLength body found := by
  constructor
  · intro h
    obtain ⟨type, length, id, body, found', rfl, low, whole, attributes⟩ | ⟨e, refused⟩ :=
      exists_frame_or_refused raw
    · rw [attributes.fields_frame low whole] at h
      cases h
      exact ⟨type, length, id, body, rfl, low, whole, attributes⟩
    · rw [refused.fields_eq] at h
      cases h
  · rintro ⟨type, length, id, body, rfl, low, whole, attributes⟩
    exact attributes.fields_frame low whole id

/-- A message has no attribute of a code, or a first one. -/
theorem all_ne_or_first (code : UInt16) (found : List Field) :
    (∀ f ∈ found, f.code ≠ code) ∨
      ∃ front f trailing, found = front ++ f :: trailing ∧ (∀ g ∈ front, g.code ≠ code) ∧
        f.code = code := by
  cases h : found.find? (·.code == code) with
  | none =>
    refine .inl fun f hf hcode => ?_
    exact List.find?_eq_none.1 h f hf (beq_iff_eq.2 hcode)
  | some f =>
    obtain ⟨hf, front, trailing, rfl, hfront⟩ := List.find?_eq_some_iff_append.1 h
    exact .inr ⟨front, f, trailing, rfl, by simpa using hfront, beq_iff_eq.1 hf⟩

/-- What the first MESSAGE-INTEGRITY decides. -/
theorem verifyIntegrity_of_first {raw : Bytes} {front trailing : List Field} {f : Field}
    (h : fields raw = .ok (front ++ f :: trailing))
    (hfront : ∀ g ∈ front, g.code ≠ AttributeType.messageIntegrity.code)
    (hf : f.code = AttributeType.messageIntegrity.code) (key : Bytes) :
    verifyIntegrity raw key =
      (trailing.all (·.code == AttributeType.fingerprint.code) &&
        f.value == Digest.Hmac.sha1 key
          (withLength (raw.take f.offset) (f.offset - headerLength + 24))) := by
  have hdrop : (front ++ f :: trailing).dropWhile
      (·.code != AttributeType.messageIntegrity.code) = f :: trailing := by
    rw [List.dropWhile_append_of_pos (by simpa using hfront), List.dropWhile_cons_of_neg]
    simpa using hf
  simp only [verifyIntegrity, h, hdrop]

theorem decode_eq (raw : Bytes) :
    Message.decode raw = (fields raw).map fun found =>
      ⟨(unpackType (Header.of raw).type).1, (unpackType (Header.of raw).type).2,
        (Header.of raw).transactionId, found.map Field.attribute⟩ := by
  unfold Message.decode
  cases fields raw <;> rfl

theorem Message.decode_eq_ok_iff {raw : Bytes} {m : Message} :
    decode raw = .ok m ↔ Spelling raw m := by
  rw [decode_eq]
  constructor
  · intro h
    cases hfields : fields raw with
    | error e =>
      rw [hfields] at h
      cases h
    | ok found =>
      rw [hfields] at h
      cases h
      obtain ⟨type, length, id, body, rfl, low, whole, attributes⟩ := fields_eq_ok_iff.1 hfields
      rw [frame_eq, Header.of_append]
      exact .intro low whole attributes
  · rintro ⟨low, whole, attributes⟩
    rw [attributes.fields_frame low whole, frame_eq, Header.of_append]
    rfl

end MediaSocket.Stun
