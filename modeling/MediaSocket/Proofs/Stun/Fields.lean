import MediaSocket.Stun.Grammar

/-! Reading attributes off bytes: `readFields` succeeds exactly on the bytes that `Spells` describes,
and otherwise it reports where the first attribute starts that does not fit. -/

namespace MediaSocket.Stun

theorem four_dvd_paddedLength (n : Nat) : 4 ∣ paddedLength n := by
  unfold paddedLength paddingLength
  omega

theorem paddedLength_eq (n : Nat) : paddedLength n = (n + 3) / 4 * 4 := by
  unfold paddedLength paddingLength
  omega

theorem le_paddedLength (n : Nat) : n ≤ paddedLength n := Nat.le_add_right _ _

theorem toNat_ofNat_of_le {n : Nat} (h : n ≤ lengthLimit) : (UInt16.ofNat n).toNat = n := by
  unfold lengthLimit at h
  rw [UInt16.toNat_ofNat']
  omega

/-- An attribute whose padded value fits is taken off, and the reader goes on behind it. -/
theorem readFields_attribute (offset : Nat) (code : UInt16) {length : UInt16} {padded : Bytes}
    (fits : padded.length = paddedLength length.toNat) (rest : Bytes) :
    readFields offset (Bytes.ofUInt16 code ++ Bytes.ofUInt16 length ++ (padded ++ rest)) =
      (readFields (offset + 4 + paddedLength length.toNat) rest).map
        (⟨offset, code, padded.take length.toNat⟩ :: ·) := by
  have hsplit := Bytes.splitAt?_append fits rest
  simp only [Bytes.ofUInt16, List.cons_append, List.nil_append]
  rw [readFields]
  simp only [Bytes.toUInt16_ofUInt16]
  split
  · rename_i h
    rw [Bytes.toUInt16_ofUInt16, hsplit] at h
    cases h
  · rename_i h
    rw [Bytes.toUInt16_ofUInt16, hsplit] at h
    cases h
    rfl

theorem readFields_overruns {offset : Nat} {bytes : Bytes} (h : Overruns bytes) :
    readFields offset bytes = .error (.attributeOverrun offset) := by
  cases h with
  | short nonempty short =>
    match bytes, nonempty, short with
    | [_], _, _ | [_, _], _, _ | [_, _, _], _, _ => rw [readFields] <;> simp
    | _ :: _ :: _ :: _ :: rest, _, short =>
      simp only [List.length_cons] at short
      omega
  | @long code length rest long =>
    have hsplit := Bytes.splitAt?_eq_none_iff.2 long
    simp only [Bytes.ofUInt16, List.cons_append, List.nil_append]
    rw [readFields]
    split
    · rfl
    · rename_i h
      rw [Bytes.toUInt16_ofUInt16, hsplit] at h
      cases h

/-- Attributes take a multiple of four bytes. -/
theorem Spells.four_dvd_length {offset : Nat} {bytes : Bytes} {found : List Field}
    (h : Spells offset bytes found) : 4 ∣ bytes.length := by
  induction h with
  | nil => simp
  | @cons _ _ value padding rest _ _ padded _ ih =>
    have hvalue := four_dvd_paddedLength value.length
    unfold paddedLength at hvalue
    simp only [List.length_append, Bytes.length_ofUInt16]
    omega

/-- The reader takes off what is spelled in front and goes on behind it. -/
theorem Spells.readFields_append {offset : Nat} {front : Bytes} {found : List Field}
    (h : Spells offset front found) (rest : Bytes) :
    readFields offset (front ++ rest) =
      (readFields (offset + front.length) rest).map (found ++ ·) := by
  induction h with
  | nil =>
    rw [List.nil_append, List.length_nil, Nat.add_zero]
    cases readFields _ rest <;> rfl
  | @cons offset code value padding more found fits padded _ ih =>
    have hlength := toNat_ofNat_of_le fits
    have hpadded : (value ++ padding).length = paddedLength (UInt16.ofNat value.length).toNat := by
      rw [hlength, List.length_append, padded, paddedLength]
    have hstep := readFields_attribute offset code hpadded (more ++ rest)
    rw [hlength, ih, List.take_left] at hstep
    simp only [List.append_assoc] at hstep ⊢
    rw [hstep]
    have hoffset : offset + 4 + paddedLength value.length + more.length =
        offset + (Bytes.ofUInt16 code ++ (Bytes.ofUInt16 (UInt16.ofNat value.length) ++
          (value ++ (padding ++ more)))).length := by
      simp only [List.length_append, Bytes.length_ofUInt16, padded, paddedLength]
      omega
    rw [hoffset]
    cases readFields _ rest <;> rfl

/-- All bytes are some attributes, and behind these either nothing or an attribute that does not
fit. -/
theorem exists_spells (offset : Nat) (bytes : Bytes) :
    ∃ front found rest, bytes = front ++ rest ∧ Spells offset front found ∧
      (rest = [] ∨ Overruns rest) := by
  induction offset, bytes using readFields.induct with
  | case1 offset => exact ⟨[], [], [], rfl, .nil, .inl rfl⟩
  | case2 offset c1 c2 n1 n2 rest n hnone =>
    have hlong : Overruns (Bytes.ofUInt16 (Bytes.toUInt16 c1 c2) ++
        Bytes.ofUInt16 (Bytes.toUInt16 n1 n2) ++ rest) :=
      .long (Bytes.splitAt?_eq_none_iff.1 hnone)
    rw [Bytes.ofUInt16_toUInt16, Bytes.ofUInt16_toUInt16] at hlong
    exact ⟨[], [], _, rfl, .nil, .inr hlong⟩
  | case3 offset c1 c2 n1 n2 rest n padded rest' hsome _ ih =>
    obtain ⟨rfl, hpadded⟩ := Bytes.splitAt?_eq_some_iff.1 hsome
    obtain ⟨front, found, last, rfl, hfront, hlast⟩ := ih
    have hn : n ≤ padded.length := hpadded ▸ le_paddedLength n
    have hvalue : (padded.take n).length = n := by
      rw [List.length_take]
      omega
    have hlt : n < 65536 := (Bytes.toUInt16 n1 n2).toNat_lt
    have hspells : Spells offset (Bytes.ofUInt16 (Bytes.toUInt16 c1 c2) ++
        Bytes.ofUInt16 (UInt16.ofNat (padded.take n).length) ++ padded.take n ++ padded.drop n ++
          front) (⟨offset, Bytes.toUInt16 c1 c2, padded.take n⟩ :: found) := by
      refine .cons ?_ ?_ ?_
      · rw [hvalue]
        unfold lengthLimit
        omega
      · rw [hvalue, List.length_drop, hpadded, paddedLength]
        omega
      · rw [hvalue]
        exact hfront
    refine ⟨_, _, last, ?_, hspells, hlast⟩
    have hword : UInt16.ofNat n = Bytes.toUInt16 n1 n2 := UInt16.ofNat_toNat
    rw [hvalue, hword, Bytes.ofUInt16_toUInt16, Bytes.ofUInt16_toUInt16,
      List.append_assoc _ (padded.take n), List.take_append_drop]
    simp
  | case4 offset bytes hne hshort =>
    refine ⟨[], [], bytes, rfl, .nil, .inr (.short hne ?_)⟩
    match bytes, hshort with
    | [], _ | [_], _ | [_, _], _ | [_, _, _], _ => simp
    | _ :: _ :: _ :: _ :: _, hshort => exact (hshort _ _ _ _ _ rfl).elim

theorem readFields_eq_ok_iff {offset : Nat} {bytes : Bytes} {found : List Field} :
    readFields offset bytes = .ok found ↔ Spells offset bytes found := by
  constructor
  · intro h
    obtain ⟨front, found', rest, rfl, hfront, rfl | hrest⟩ := exists_spells offset bytes
    · rw [hfront.readFields_append, readFields] at h
      cases h
      simpa using hfront
    · rw [hfront.readFields_append, readFields_overruns hrest] at h
      cases h
  · intro h
    have happend := h.readFields_append []
    rw [readFields] at happend
    simpa [Except.map] using happend

theorem readFields_eq_error_iff {offset : Nat} {bytes : Bytes} {e : Error} :
    readFields offset bytes = .error e ↔
      ∃ front found rest, bytes = front ++ rest ∧ Spells offset front found ∧ Overruns rest ∧
        e = .attributeOverrun (offset + front.length) := by
  constructor
  · intro h
    obtain ⟨front, found, rest, rfl, hfront, rfl | hrest⟩ := exists_spells offset bytes
    · rw [hfront.readFields_append, readFields] at h
      cases h
    · rw [hfront.readFields_append, readFields_overruns hrest] at h
      cases h
      exact ⟨front, found, rest, rfl, hfront, hrest, rfl⟩
  · rintro ⟨front, found, rest, rfl, hfront, hrest, rfl⟩
    rw [hfront.readFields_append, readFields_overruns hrest]
    rfl

/-- The value of an attribute stands four bytes behind where the attribute starts. -/
theorem Spells.exists_around {offset : Nat} {bytes : Bytes} {found : List Field}
    (h : Spells offset bytes found) {f : Field} (hf : f ∈ found) :
    ∃ front rest, bytes = front ++ f.value ++ rest ∧ f.offset + 4 = offset + front.length ∧
      offset ≤ f.offset := by
  induction h with
  | nil => simp at hf
  | @cons offset code value padding more found _ padded _ ih =>
    rcases List.mem_cons.1 hf with rfl | hmem
    · refine ⟨Bytes.ofUInt16 code ++ Bytes.ofUInt16 (UInt16.ofNat value.length),
        padding ++ more, ?_, rfl, Nat.le_refl _⟩
      simp only [List.append_assoc]
    · obtain ⟨front, rest, rfl, hoffset, hlow⟩ := ih hmem
      refine ⟨Bytes.ofUInt16 code ++ Bytes.ofUInt16 (UInt16.ofNat value.length) ++ value ++ padding ++
        front, rest, ?_, ?_, ?_⟩
      · simp only [List.append_assoc]
      · rw [hoffset]
        simp only [List.length_append, Bytes.length_ofUInt16, padded, paddedLength]
        omega
      · omega

theorem Spells.append {offset : Nat} {front rest : Bytes} {found more : List Field}
    (h : Spells offset front found) (hmore : Spells (offset + front.length) rest more) :
    Spells offset (front ++ rest) (found ++ more) := by
  apply readFields_eq_ok_iff.1
  rw [h.readFields_append, readFields_eq_ok_iff.2 hmore]
  rfl

theorem Spells.exists_more {offset : Nat} {front rest : Bytes} {first found : List Field}
    (hfront : Spells offset front first) (h : Spells offset (front ++ rest) found) :
    ∃ more, found = first ++ more ∧ Spells (offset + front.length) rest more := by
  have hread := readFields_eq_ok_iff.2 h
  rw [hfront.readFields_append] at hread
  cases hrest : readFields (offset + front.length) rest with
  | error e =>
    rw [hrest] at hread
    cases hread
  | ok more =>
    rw [hrest] at hread
    cases hread
    exact ⟨more, rfl, readFields_eq_ok_iff.1 hrest⟩

/-- Where the first attributes end, the others begin. -/
theorem Spells.exists_split {offset : Nat} {bytes : Bytes} {front back : List Field}
    (h : Spells offset bytes (front ++ back)) :
    ∃ before behind, bytes = before ++ behind ∧ Spells offset before front ∧
      Spells (offset + before.length) behind back := by
  induction front generalizing offset bytes with
  | nil => exact ⟨[], bytes, rfl, .nil, h⟩
  | cons f front ih =>
    cases h with
    | @cons _ code value padding rest _ fits padded more =>
      obtain ⟨before, behind, rfl, hbefore, hbehind⟩ := ih more
      have hoffset : offset + (Bytes.ofUInt16 code ++ Bytes.ofUInt16 (UInt16.ofNat value.length) ++
          value ++ padding ++ before).length =
            offset + 4 + paddedLength value.length + before.length := by
        simp only [List.length_append, Bytes.length_ofUInt16, padded, paddedLength]
        omega
      refine ⟨_, behind, (List.append_assoc ..).symm, .cons fits padded hbefore, ?_⟩
      rw [hoffset]
      exact hbehind

theorem Spells.length_value_le {offset : Nat} {bytes : Bytes} {found : List Field}
    (h : Spells offset bytes found) : ∀ f ∈ found, f.value.length ≤ lengthLimit := by
  induction h with
  | nil => simp
  | cons fits _ _ ih => simpa using And.intro fits ih

end MediaSocket.Stun
