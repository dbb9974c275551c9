import MediaSocket.Proofs.Checksum
import MediaSocket.Proofs.Stun.Signature

/-! A FINGERPRINT that is right ends the message, whatever the attributes before it, so that two
messages of one length have it at the same place, and no change within four bytes in a row keeps it
right. -/

namespace MediaSocket.Stun

theorem Spells.eq_of_singleton {offset : Nat} {bytes : Bytes} {f : Field}
    (h : Spells offset bytes [f]) : f.offset = offset ∧
      ∃ padding : Bytes, padding.length = paddingLength f.value.length ∧
        bytes = Bytes.ofUInt16 f.code ++ Bytes.ofUInt16 (UInt16.ofNat f.value.length) ++ f.value ++
          padding := by
  cases h with
  | @cons _ code value padding rest _ _ padded more =>
    cases more
    exact ⟨rfl, padding, padded, List.append_nil _⟩

theorem length_fingerprintValue (covered : Bytes) : (fingerprintValue covered).length = 4 := rfl

theorem bytes_fingerprint (covered : Bytes) : (fingerprint covered).bytes =
    Bytes.ofUInt16 AttributeType.fingerprint.code ++ Bytes.ofUInt16 (UInt16.ofNat 4) ++
      fingerprintValue covered := by
  have hpadding : paddingLength 4 = 0 := by decide
  rw [Attribute.bytes, length_fingerprint, hpadding]
  exact List.append_nil _

theorem length_bytes_fingerprint (covered : Bytes) : (fingerprint covered).bytes.length = 8 := by
  rw [Attribute.length_bytes, length_fingerprint]
  rfl

theorem drop_bytes_fingerprint (covered : Bytes) :
    (covered ++ (fingerprint covered).bytes).drop (covered.length + 4) =
      fingerprintValue covered := by
  rw [bytes_fingerprint, ← List.append_assoc]
  exact List.drop_left' (by simp)

theorem checksum_eq_of_fingerprintValue_eq {xs ys : Bytes}
    (h : fingerprintValue xs = fingerprintValue ys) : Crc32.checksum xs = Crc32.checksum ys := by
  simp only [fingerprintValue, Bytes.ofUInt32, List.cons.injEq, and_true] at h
  obtain ⟨ha, hb, hc, hd⟩ := h
  have hword := Bytes.toUInt32_ofUInt32 (Crc32.checksum xs ^^^ 0x5354554E)
  rw [ha, hb, hc, hd, Bytes.toUInt32_ofUInt32, UInt32.xor_left_inj] at hword
  exact hword.symm

/-- What a FINGERPRINT is computed over stands right before it, and nothing stands behind it. -/
theorem exists_covered {raw : Bytes} (h : verifyFingerprint raw = true) :
    ∃ covered, raw = covered ++ (fingerprint covered).bytes := by
  unfold verifyFingerprint at h
  split at h
  · cases h
  · rename_i found hfields
    split at h
    · cases h
    · rename_i f hlast
      obtain ⟨type, length, id, body, rfl, -, -, attributes⟩ := fields_eq_ok_iff.1 hfields
      obtain ⟨before, rfl⟩ := List.getLast?_eq_some_iff.1 hlast
      obtain ⟨front, behind, rfl, -, hbehind⟩ := attributes.exists_split
      obtain ⟨hoffset, padding, hpadding, rfl⟩ := hbehind.eq_of_singleton
      rw [Bool.and_eq_true, beq_iff_eq, beq_iff_eq, hoffset, take_frame, List.take_left] at h
      obtain ⟨hcode, hvalue⟩ := h
      rw [hvalue, length_fingerprintValue] at hpadding
      refine ⟨frame type length id front, ?_⟩
      rw [bytes_fingerprint, hcode, hvalue, length_fingerprintValue,
        List.eq_nil_of_length_eq_zero hpadding, List.append_nil, frame_eq, frame_eq,
        List.append_assoc _ front]

/-- A change of a message whose FINGERPRINT is right makes it wrong, whichever bytes it falls on, if
it does not reach further than four bytes. -/
theorem verifyFingerprint_of_burst {raw raw' : Bytes} {i : Nat} (h : verifyFingerprint raw = true)
    (hlength : raw'.length = raw.length) (hne : raw' ≠ raw)
    (hwindow : ∀ j, raw'[j]? ≠ raw[j]? → i ≤ j ∧ j < i + 4) : verifyFingerprint raw' = false := by
  apply eq_false_of_ne_true
  intro h'
  obtain ⟨covered, rfl⟩ := exists_covered h
  obtain ⟨covered', rfl⟩ := exists_covered h'
  have hcovered : covered'.length = covered.length := by
    simpa only [length_bytes_fingerprint, List.length_append, Nat.add_right_cancel_iff] using hlength
  have hchange : covered' ≠ covered := by
    rintro rfl
    exact hne rfl
  have hinside : ∀ j, covered'[j]? ≠ covered[j]? → j < covered.length ∧ i ≤ j ∧ j < i + 4 := by
    intro j hj
    rcases Nat.lt_or_ge j covered.length with hin | hout
    · refine ⟨hin, hwindow j ?_⟩
      rwa [List.getElem?_append_left (hcovered ▸ hin), List.getElem?_append_left hin]
    · rw [List.getElem?_eq_none hout, List.getElem?_eq_none (hcovered ▸ hout)] at hj
      exact absurd rfl hj
  obtain ⟨j, hj⟩ := not_forall.1 fun hall => hchange (List.ext_getElem? hall)
  obtain ⟨hin, hlow, -⟩ := hinside j hj
  -- the code and the length of the FINGERPRINT, which are the same in both messages, keep its value
  -- out of reach
  have hvalue : fingerprintValue covered' = fingerprintValue covered := by
    rw [← drop_bytes_fingerprint covered', ← drop_bytes_fingerprint covered, hcovered]
    apply List.ext_getElem?
    intro k
    rw [List.getElem?_drop, List.getElem?_drop]
    refine Decidable.not_not.1 fun hdiffer => ?_
    obtain ⟨-, hhigh⟩ := hwindow _ hdiffer
    omega
  exact hchange (Crc32.checksum_injective_on_window hcovered (fun j hj => (hinside j hj).2)
    (checksum_eq_of_fingerprintValue_eq hvalue))

/-- A length that ends the message before its FINGERPRINT is noticed. -/
theorem verifyFingerprint_of_burst_length :
    let m : Message := ⟨.request, .binding, Vector.replicate 12 0, [⟨.software, [0x61]⟩]⟩
    let raw := (m.signed [1, 2]).written
    raw[3]? = some 0x28 ∧ verifyFingerprint raw = true ∧
      verifyFingerprint (raw.set 3 0x20) = false := by
  intro m raw
  have fits : ∀ a ∈ m.unsigned, a.value.length ≤ lengthLimit := by decide
  have small : bodyLength m.unsigned + 32 ≤ lengthLimit := by decide
  have hlength : raw[3]? = some 0x28 := by decide
  have hright : verifyFingerprint raw = true := Message.verifyFingerprint_signed fits small [1, 2]
  refine ⟨hlength, hright, verifyFingerprint_of_burst (i := 3) hright List.length_set ?_ ?_⟩
  · intro hsame
    have hset : (raw.set 3 0x20)[3]? = some 0x20 :=
      List.getElem?_set_self (List.getElem?_eq_some_iff.1 hlength).1
    rw [hsame, hlength] at hset
    exact absurd hset (by decide)
  · intro j hj
    rcases Nat.decEq 3 j with hother | rfl
    · exact absurd (List.getElem?_set_ne hother) hj
    · decide

end MediaSocket.Stun
