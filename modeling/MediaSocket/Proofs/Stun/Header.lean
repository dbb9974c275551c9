import MediaSocket.Proofs.Stun.Fields

/-! The header of a message as bytes: `Header.of` reads back what `Header.bytes` writes, every message
of at least 20 bytes starts with the bytes of its header, and `fields` decides on the header before
it looks at the attributes. -/

namespace MediaSocket.Stun

@[simp] theorem Header.length_bytes (h : Header) : h.bytes.length = headerLength := by
  simp [bytes, headerLength]

theorem frame_eq (type length : UInt16) (id : TransactionId) (body : Bytes) :
    frame type length id body = (⟨type, length, magicCookie, id⟩ : Header).bytes ++ body := rfl

theorem length_frame (type length : UInt16) (id : TransactionId) (body : Bytes) :
    (frame type length id body).length = headerLength + body.length := by
  rw [frame_eq, List.length_append, Header.length_bytes]

theorem take_frame (type length : UInt16) (id : TransactionId) (body : Bytes) (n : Nat) :
    (frame type length id body).take (headerLength + n) = frame type length id (body.take n) := by
  have hheader : (⟨type, length, magicCookie, id⟩ : Header).bytes.length = headerLength :=
    Header.length_bytes _
  rw [frame_eq, frame_eq, List.take_append, hheader, Nat.add_sub_cancel_left,
    List.take_of_length_le (by omega)]

theorem Header.toList_transactionId_of {raw : Bytes} (h : headerLength ≤ raw.length) :
    (Header.of raw).transactionId.toList = (raw.drop 8).take 12 := by
  unfold headerLength at h
  apply List.ext_getElem
  · simp
    omega
  · intro i hi _
    have hi : i < 12 := by simpa using hi
    have hin : 8 + i < raw.length := by omega
    simp [Header.of, hin]

/-- Reading a header gives back what was written. -/
theorem Header.of_append (h : Header) (body : Bytes) : Header.of (h.bytes ++ body) = h := by
  have hlong : headerLength ≤ (h.bytes ++ body).length := by simp
  have hdrop : (h.bytes ++ body).drop 8 = h.transactionId.toList ++ body := by
    rw [bytes, List.append_assoc]
    exact List.drop_left' rfl
  have hid := Header.toList_transactionId_of hlong
  rw [hdrop, List.take_left' h.transactionId.length_toList, Vector.toList_inj] at hid
  exact Header.ext (Bytes.toUInt16_ofUInt16 _) (Bytes.toUInt16_ofUInt16 _)
    (Bytes.toUInt32_ofUInt32 _) hid

theorem exists_four_bytes {bytes : Bytes} (h : 4 ≤ bytes.length) :
    ∃ a b c d rest, bytes = a :: b :: c :: d :: rest := by
  match bytes, h with
  | a :: b :: c :: d :: rest, _ => exact ⟨a, b, c, d, rest, rfl⟩

/-- Every message that is long enough starts with the bytes of its header. -/
theorem Header.bytes_of_append {raw : Bytes} (h : headerLength ≤ raw.length) :
    (Header.of raw).bytes ++ raw.drop headerLength = raw := by
  have hid := Header.toList_transactionId_of h
  unfold headerLength at h
  obtain ⟨t1, t2, n1, n2, behind, hraw⟩ := exists_four_bytes (show 4 ≤ raw.length by omega)
  have hbehind : raw.length = behind.length + 4 := by rw [hraw]; rfl
  obtain ⟨c1, c2, c3, c4, rest, hrest⟩ := exists_four_bytes (show 4 ≤ behind.length by omega)
  rw [hrest] at hraw
  have htype : (Header.of raw).type = Bytes.toUInt16 t1 t2 := by rw [hraw]; rfl
  have hlength : (Header.of raw).length = Bytes.toUInt16 n1 n2 := by rw [hraw]; rfl
  have hcookie : (Header.of raw).cookie = Bytes.toUInt32 c1 c2 c3 c4 := by rw [hraw]; rfl
  rw [Header.bytes, htype, hlength, hcookie, hid, Bytes.ofUInt16_toUInt16,
    Bytes.ofUInt16_toUInt16, Bytes.ofUInt32_toUInt32, hraw]
  simp [headerLength]

theorem exists_header {raw : Bytes} (h : headerLength ≤ raw.length) :
    ∃ (header : Header) (body : Bytes), raw = header.bytes ++ body :=
  ⟨_, _, (Header.bytes_of_append h).symm⟩

/-- What is decided on a message with this header. -/
theorem fields_append (h : Header) (body : Bytes) :
    fields (h.bytes ++ body) =
      if 0x4000 ≤ h.type then .error .notStun
      else if h.cookie ≠ magicCookie then .error (.badCookie h.cookie)
      else if h.length.toNat % 4 ≠ 0 ∨ h.length.toNat ≠ body.length then
        .error (.lengthMismatch h.length.toNat body.length)
      else readFields headerLength body := by
  have hlong : ¬(h.bytes ++ body).length < headerLength := by simp
  have hactual : (h.bytes ++ body).length - headerLength = body.length := by simp
  have hbody : (h.bytes ++ body).drop headerLength = body := by
    rw [List.drop_left' h.length_bytes]
  simp only [fields, Header.of_append, if_neg hlong, hactual, hbody]

theorem fields_frame {type length : UInt16} (low : type < 0x4000) (id : TransactionId)
    {body : Bytes} (whole : length.toNat = body.length) (aligned : 4 ∣ length.toNat) :
    fields (frame type length id body) = readFields headerLength body := by
  have hlow : ¬0x4000 ≤ type := UInt16.not_le.2 low
  have hlength : ¬(length.toNat % 4 ≠ 0 ∨ length.toNat ≠ body.length) := by
    rintro (h | h)
    · exact h (Nat.mod_eq_zero_of_dvd aligned)
    · exact h whole
  rw [frame_eq, fields_append, if_neg hlow, if_neg (fun h => h rfl), if_neg hlength]

end MediaSocket.Stun
