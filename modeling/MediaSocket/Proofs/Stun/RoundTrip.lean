import MediaSocket.Proofs.Stun.Decode
import MediaSocket.Proofs.Stun.MessageType

/-! Writing a message and reading it back: writing fails only for a value or a body that is too long,
and what is read is the message in its canonical form. -/

namespace MediaSocket.Stun

theorem Attribute.length_bytes (a : Attribute) :
    a.bytes.length = 4 + paddedLength a.value.length := by
  simp only [bytes, List.length_append, Bytes.length_ofUInt16, List.length_replicate, paddedLength]
  omega

theorem length_flatMap_bytes (attributes : List Attribute) :
    (attributes.flatMap Attribute.bytes).length = bodyLength attributes := by
  induction attributes with
  | nil => rfl
  | cons a rest ih => rw [List.flatMap_cons, List.length_append, a.length_bytes, ih, bodyLength]

theorem bodyLength_append (front rest : List Attribute) :
    bodyLength (front ++ rest) = bodyLength front + bodyLength rest := by
  rw [← length_flatMap_bytes, List.flatMap_append, List.length_append, length_flatMap_bytes,
    length_flatMap_bytes]

theorem encodeAttributes_fit {attributes : List Attribute}
    (fits : ∀ a ∈ attributes, a.value.length ≤ lengthLimit) :
    encodeAttributes attributes = .ok (attributes.flatMap Attribute.bytes) := by
  induction attributes with
  | nil => rfl
  | cons a rest ih =>
    have ha : a.encode = .ok a.bytes := if_pos (fits a (List.mem_cons_self ..))
    have hrest := ih fun b hb => fits b (List.mem_cons_of_mem _ hb)
    rw [encodeAttributes, ha, hrest]
    rfl

/-- The first attribute that is too long is reported, whatever follows it. -/
theorem encodeAttributes_tooLong {front : List Attribute} {a : Attribute}
    (fits : ∀ b ∈ front, b.value.length ≤ lengthLimit) (long : lengthLimit < a.value.length)
    (rest : List Attribute) :
    encodeAttributes (front ++ a :: rest) =
      .error (.attributeTooLong a.type.code a.value.length) := by
  induction front with
  | nil =>
    have ha : a.encode = .error (.attributeTooLong a.type.code a.value.length) :=
      if_neg (Nat.not_le.2 long)
    rw [List.nil_append, encodeAttributes, ha]
    rfl
  | cons b front ih =>
    have hb : b.encode = .ok b.bytes := if_pos (fits b (List.mem_cons_self ..))
    have hfront := ih fun c hc => fits c (List.mem_cons_of_mem _ hc)
    rw [List.cons_append, encodeAttributes, hb, hfront]
    rfl

theorem size_cases (attributes : List Attribute) :
    ((∀ a ∈ attributes, a.value.length ≤ lengthLimit) ∧ bodyLength attributes ≤ lengthLimit) ∨
      (∃ front a rest, attributes = front ++ a :: rest ∧
        (∀ b ∈ front, b.value.length ≤ lengthLimit) ∧ lengthLimit < a.value.length) ∨
      (∀ a ∈ attributes, a.value.length ≤ lengthLimit) ∧ lengthLimit < bodyLength attributes := by
  cases h : attributes.find? fun a => lengthLimit < a.value.length with
  | none =>
    have fits : ∀ a ∈ attributes, a.value.length ≤ lengthLimit := by
      intro a ha
      simpa using List.find?_eq_none.1 h a ha
    obtain large | small := Nat.lt_or_ge lengthLimit (bodyLength attributes)
    · exact .inr (.inr ⟨fits, large⟩)
    · exact .inl ⟨fits, small⟩
  | some a =>
    obtain ⟨long, front, rest, rfl, fits⟩ := List.find?_eq_some_iff_append.1 h
    exact .inr (.inl ⟨front, a, rest, rfl, by simpa using fits, by simpa using long⟩)

/-- The fields that attributes are written as, the first one at `offset`. -/
def placed (offset : Nat) : List Attribute → List Field
  | [] => []
  | a :: rest =>
    ⟨offset, a.type.code, a.value⟩ :: placed (offset + 4 + paddedLength a.value.length) rest

theorem placed_append (offset : Nat) (front rest : List Attribute) :
    placed offset (front ++ rest) =
      placed offset front ++ placed (offset + bodyLength front) rest := by
  induction front generalizing offset with
  | nil => rfl
  | cons a front ih =>
    rw [List.cons_append, placed, placed, ih, bodyLength, List.cons_append, Nat.add_assoc offset,
      Nat.add_assoc offset]

theorem map_attribute_placed (offset : Nat) (attributes : List Attribute) :
    (placed offset attributes).map Field.attribute = attributes.map Attribute.canonical := by
  induction attributes generalizing offset with
  | nil => rfl
  | cons a rest ih =>
    rw [placed, List.map_cons, List.map_cons, ih]
    rfl

theorem map_code_placed (offset : Nat) (attributes : List Attribute) :
    (placed offset attributes).map Field.code = attributes.map (·.type.code) := by
  induction attributes generalizing offset with
  | nil => rfl
  | cons a rest ih => rw [placed, List.map_cons, List.map_cons, ih]

/-- Written attributes are spelled as they should be. -/
theorem spells_placed (offset : Nat) {attributes : List Attribute}
    (fits : ∀ a ∈ attributes, a.value.length ≤ lengthLimit) :
    Spells offset (attributes.flatMap Attribute.bytes) (placed offset attributes) := by
  induction attributes generalizing offset with
  | nil => exact .nil
  | cons a rest ih =>
    exact .cons (fits a (List.mem_cons_self ..)) List.length_replicate
      (ih _ fun b hb => fits b (List.mem_cons_of_mem _ hb))

/-- Attributes that are read and written again take as many bytes as before. -/
theorem Spells.bodyLength_eq {offset : Nat} {bytes : Bytes} {found : List Field}
    (h : Spells offset bytes found) : bodyLength (found.map Field.attribute) = bytes.length := by
  induction h with
  | nil => rfl
  | @cons _ _ value padding _ _ _ padded _ ih =>
    rw [List.map_cons, bodyLength, ih]
    simp only [Field.attribute, List.length_append, Bytes.length_ofUInt16, padded, paddedLength]
    omega

/-- Beside the type with a name, only the type without one that holds its code is written the same. -/
theorem AttributeType.eq_or_other_of_code {t named : AttributeType} (hnamed : named.IsCanonical)
    (h : t.code = named.code) : t = named ∨ t = .other named.code := by
  by_cases ht : t.IsCanonical
  · left
    rw [← (canonical_eq_self_iff t).2 ht, canonical, h]
    exact (canonical_eq_self_iff named).2 hnamed
  · right
    cases t with
    | other code => exact congrArg AttributeType.other h
    | _ => exact (ht trivial).elim

theorem Attribute.canonical_eq_self_iff (a : Attribute) :
    a.canonical = a ↔ a.type.IsCanonical := by
  rw [← AttributeType.canonical_eq_self_iff, canonical, Attribute.mk.injEq]
  exact and_iff_left rfl

namespace Message

theorem canonical_eq_self_iff (m : Message) : m.canonical = m ↔ m.IsCanonical := by
  have hattributes : m.attributes.map Attribute.canonical = m.attributes ↔
      ∀ a ∈ m.attributes, a.type.IsCanonical := by
    have hmap := List.map_eq_map_iff (f := Attribute.canonical) (g := id) (l := m.attributes)
    rw [List.map_id] at hmap
    exact hmap.trans (forall₂_congr fun a _ => a.canonical_eq_self_iff)
  rw [IsCanonical, ← Method.canonical_eq_self_iff, ← hattributes, canonical, Message.mk.injEq]
  exact ⟨fun ⟨_, hmethod, _, h⟩ => ⟨hmethod, h⟩, fun ⟨hmethod, h⟩ => ⟨rfl, hmethod, rfl, h⟩⟩

/-- Messages that are read are canonical. -/
theorem isCanonical_of_decode {raw : Bytes} {m : Message} (h : decode raw = .ok m) :
    m.IsCanonical := by
  obtain ⟨low, whole, attributes⟩ := decode_eq_ok_iff.1 h
  refine ⟨Method.isCanonical_ofNumber _, fun a ha => ?_⟩
  obtain ⟨f, -, rfl⟩ := List.mem_map.1 ha
  rw [← AttributeType.canonical_eq_self_iff, AttributeType.canonical, Field.attribute,
    AttributeType.code_ofCode]

/-- The bytes of a message whose values and whose body fit. -/
def written (m : Message) : Bytes :=
  m.header (UInt16.ofNat (bodyLength m.attributes)) ++ m.attributes.flatMap Attribute.bytes

theorem written_eq_frame (m : Message) :
    m.written = frame (packType m.messageClass m.method)
      (UInt16.ofNat (bodyLength m.attributes)) m.transactionId
      (m.attributes.flatMap Attribute.bytes) := rfl

theorem encode_fit {m : Message} (fits : ∀ a ∈ m.attributes, a.value.length ≤ lengthLimit)
    (small : bodyLength m.attributes ≤ lengthLimit) : m.encode = .ok m.written := by
  have hlength : lengthField (m.attributes.flatMap Attribute.bytes).length =
      .ok (UInt16.ofNat (bodyLength m.attributes)) := by
    rw [length_flatMap_bytes]
    exact if_pos small
  simp only [encode, encodeAttributes_fit fits, bind, Except.bind, hlength]
  rfl

theorem encode_attributeTooLong {m : Message} {front rest : List Attribute} {a : Attribute}
    (hm : m.attributes = front ++ a :: rest)
    (fits : ∀ b ∈ front, b.value.length ≤ lengthLimit) (long : lengthLimit < a.value.length) :
    m.encode = .error (.attributeTooLong a.type.code a.value.length) := by
  rw [encode, hm, encodeAttributes_tooLong fits long]
  rfl

theorem encode_messageTooLong {m : Message}
    (fits : ∀ a ∈ m.attributes, a.value.length ≤ lengthLimit)
    (large : lengthLimit < bodyLength m.attributes) :
    m.encode = .error (.messageTooLong (bodyLength m.attributes)) := by
  have hlength : lengthField (m.attributes.flatMap Attribute.bytes).length =
      .error (.messageTooLong (bodyLength m.attributes)) := by
    rw [length_flatMap_bytes]
    exact if_neg (Nat.not_le.2 large)
  simp only [encode, encodeAttributes_fit fits, bind, Except.bind, hlength]

theorem fields_written {m : Message} (fits : ∀ a ∈ m.attributes, a.value.length ≤ lengthLimit)
    (small : bodyLength m.attributes ≤ lengthLimit) :
    fields m.written = .ok (placed headerLength m.attributes) := by
  have whole : (UInt16.ofNat (bodyLength m.attributes)).toNat =
      (m.attributes.flatMap Attribute.bytes).length := by
    rw [length_flatMap_bytes, toNat_ofNat_of_le small]
  rw [written_eq_frame]
  exact (spells_placed headerLength fits).fields_frame (packType_lt ..) whole m.transactionId

theorem decode_written {m : Message} (fits : ∀ a ∈ m.attributes, a.value.length ≤ lengthLimit)
    (small : bodyLength m.attributes ≤ lengthLimit) : decode m.written = .ok m.canonical := by
  have hheader : Header.of m.written = ⟨packType m.messageClass m.method,
      UInt16.ofNat (bodyLength m.attributes), magicCookie, m.transactionId⟩ := by
    rw [written_eq_frame, frame_eq, Header.of_append]
  rw [decode_eq, fields_written fits small, hheader, Except.map, map_attribute_placed,
    unpackType_packType]
  rfl

theorem encode_eq_ok_iff {m : Message} {raw : Bytes} :
    m.encode = .ok raw ↔ (∀ a ∈ m.attributes, a.value.length ≤ lengthLimit) ∧
      bodyLength m.attributes ≤ lengthLimit ∧ raw = m.written := by
  constructor
  · intro h
    obtain ⟨fits, small⟩ | ⟨front, a, rest, hm, fits, long⟩ | ⟨fits, large⟩ :=
      size_cases m.attributes
    · rw [encode_fit fits small] at h
      cases h
      exact ⟨fits, small, rfl⟩
    · rw [encode_attributeTooLong hm fits long] at h
      cases h
    · rw [encode_messageTooLong fits large] at h
      cases h
  · rintro ⟨fits, small, rfl⟩
    exact encode_fit fits small

end Message

/-- Writing a message fails exactly for a value or a body that is too long, the first such value
being reported, and reading what was written gives the message in its canonical form. -/
theorem encode_then_decode (m : Message) :
    ((∃ raw, m.encode = .ok raw) ↔
      (∀ a ∈ m.attributes, a.value.length ≤ lengthLimit) ∧
        bodyLength m.attributes ≤ lengthLimit) ∧
    (∀ e, m.encode = .error e ↔
      (∃ front a rest, m.attributes = front ++ a :: rest ∧
        (∀ b ∈ front, b.value.length ≤ lengthLimit) ∧ lengthLimit < a.value.length ∧
        e = .attributeTooLong a.type.code a.value.length) ∨
      ((∀ a ∈ m.attributes, a.value.length ≤ lengthLimit) ∧
        lengthLimit < bodyLength m.attributes ∧ e = .messageTooLong (bodyLength m.attributes))) ∧
    ∀ raw, m.encode = .ok raw →
      Message.decode raw = .ok m.canonical ∧ (Message.decode raw = .ok m ↔ m.IsCanonical) := by
  refine ⟨⟨?_, ?_⟩, fun e => ⟨?_, ?_⟩, ?_⟩
  · rintro ⟨raw, h⟩
    obtain ⟨fits, small, -⟩ := Message.encode_eq_ok_iff.1 h
    exact ⟨fits, small⟩
  · rintro ⟨fits, small⟩
    exact ⟨_, Message.encode_fit fits small⟩
  · intro h
    obtain ⟨fits, small⟩ | ⟨front, a, rest, hm, fits, long⟩ | ⟨fits, large⟩ :=
      size_cases m.attributes
    · rw [Message.encode_fit fits small] at h
      cases h
    · rw [Message.encode_attributeTooLong hm fits long] at h
      cases h
      exact .inl ⟨front, a, rest, hm, fits, long, rfl⟩
    · rw [Message.encode_messageTooLong fits large] at h
      cases h
      exact .inr ⟨fits, large, rfl⟩
  · rintro (⟨front, a, rest, hm, fits, long, rfl⟩ | ⟨fits, large, rfl⟩)
    · exact Message.encode_attributeTooLong hm fits long
    · exact Message.encode_messageTooLong fits large
  · intro raw h
    obtain ⟨fits, small, rfl⟩ := Message.encode_eq_ok_iff.1 h
    have hdecode := Message.decode_written fits small
    refine ⟨hdecode, ?_⟩
    rw [hdecode, Except.ok.injEq, Message.canonical_eq_self_iff]

/-- Method and type without the names that their numbers have come back with them. -/
theorem encode_then_decode_unnamed :
    let m : Message := ⟨.request, .other 1, Vector.replicate 12 0, [⟨.other 0x8022, [0x61]⟩]⟩
    ∃ raw, m.encode = .ok raw ∧ Message.decode raw ≠ .ok m ∧
      Message.decode raw = .ok ⟨.request, .binding, Vector.replicate 12 0, [⟨.software, [0x61]⟩]⟩ := by
  intro m
  obtain ⟨hok, -, hdecode⟩ := encode_then_decode m
  obtain ⟨raw, hraw⟩ := hok.2 ⟨by decide, by decide⟩
  obtain ⟨hcanonical, hself⟩ := hdecode raw hraw
  refine ⟨raw, hraw, fun h => ?_, hcanonical⟩
  exact (hself.1 h).1.1 rfl

end MediaSocket.Stun
