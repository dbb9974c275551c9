import MediaSocket.Proofs.Stun.Decode

/-! Messages read by index. Here each byte is fetched at its place, and an index outside the message
gives no answer at all. Reading a message by index and checking its last two attributes always
answer, and as `Message.decode`, `verifyFingerprint` and `verifyIntegrity` do: no index is ever
outside. -/

namespace MediaSocket.Stun.Indexed

/-- The 16-bit word at an index. -/
def word16 (raw : Bytes) (i : Nat) : Option UInt16 := do
  return Bytes.toUInt16 (← raw[i]?) (← raw[i + 1]?)

/-- The 32-bit word at an index. -/
def word32 (raw : Bytes) (i : Nat) : Option UInt32 := do
  return Bytes.toUInt32 (← raw[i]?) (← raw[i + 1]?) (← raw[i + 2]?) (← raw[i + 3]?)

/-- The part of a list from the index `first` up to the index `last`. -/
def slice {α : Type} (list : List α) (first last : Nat) : Option (List α) :=
  if first ≤ last ∧ last ≤ list.length then some ((list.take last).drop first) else none

/-- Where an attribute stands in a message. -/
structure Span where
  code : UInt16
  offset : Nat
  valueOffset : Nat
  valueLength : Nat

/-- Where the attributes from `offset` on stand. -/
def spansFrom (raw : Bytes) (offset : Nat) : Option (Except Error (List Span)) :=
  if offset < raw.length then
    if raw.length < offset + 4 then some (.error (.attributeOverrun offset))
    else do
      let code ← word16 raw offset
      let length ← word16 raw (offset + 2)
      if raw.length < offset + 4 + paddedLength length.toNat then
        return .error (.attributeOverrun offset)
      let more ← spansFrom raw (offset + 4 + paddedLength length.toNat)
      return more.map (⟨code, offset, offset + 4, length.toNat⟩ :: ·)
  else some (.ok [])
termination_by raw.length - offset

/-- Where the attributes of a message stand, once its header has been checked. -/
def spans (raw : Bytes) : Option (Except Error (List Span)) :=
  if raw.length < headerLength then some (.error (.tooShort raw.length))
  else do
    let first ← raw[0]?
    if first &&& 0xC0 ≠ 0 then return .error .notStun
    let cookie ← word32 raw 4
    if cookie ≠ magicCookie then return .error (.badCookie cookie)
    let declared ← word16 raw 2
    let actual := raw.length - headerLength
    if declared.toNat % 4 ≠ 0 ∨ declared.toNat ≠ actual then
      return .error (.lengthMismatch declared.toNat actual)
    spansFrom raw headerLength

/-- Twelve bytes as a transaction id. -/
def transactionId (bytes : Bytes) : Option TransactionId :=
  if h : bytes.length = 12 then some ⟨bytes.toArray, h⟩ else none

/-- The attribute that stands at a place. -/
def attributeAt (raw : Bytes) (s : Span) : Option Attribute := do
  return ⟨.ofCode s.code, ← slice raw s.valueOffset (s.valueOffset + s.valueLength)⟩

/-- The message that these bytes hold. -/
def decode (raw : Bytes) : Option (Except Error Message) := do
  match ← spans raw with
  | .error e => return .error e
  | .ok found =>
    let type ← word16 raw 0
    let id ← transactionId (← slice raw 8 headerLength)
    let attributes ← found.mapM (attributeAt raw)
    return .ok ⟨(unpackType type).1, (unpackType type).2, id, attributes⟩

/-- Whether the last attribute of a message is a FINGERPRINT that fits the bytes before it. -/
def verifyFingerprint (raw : Bytes) : Option Bool := do
  match ← spans raw with
  | .error _ => return false
  | .ok found =>
    match found.getLast? with
    | none => return false
    | some s =>
      if s.code = AttributeType.fingerprint.code ∧ s.valueLength = 4 then
        let received ← slice raw s.valueOffset (s.valueOffset + 4)
        let covered ← slice raw 0 s.offset
        return received == fingerprintValue covered
      else return false

/-- The bytes with another word at an index. -/
def setWord16 (bytes : Bytes) (i : Nat) (word : UInt16) : Option Bytes :=
  if i + 2 ≤ bytes.length then some (bytes.take i ++ Bytes.ofUInt16 word ++ bytes.drop (i + 2))
  else none

/-- Whether the first MESSAGE-INTEGRITY of a message is right under a key and nothing but
FINGERPRINT follows it. -/
def verifyIntegrity (raw key : Bytes) : Option Bool := do
  match ← spans raw with
  | .error _ => return false
  | .ok found =>
    match found.findIdx? (·.code == AttributeType.messageIntegrity.code) with
    | none => return false
    | some index =>
      let s ← found[index]?
      let trailing ← slice found (index + 1) found.length
      if s.valueLength ≠ 20 ∨ !trailing.all (·.code == AttributeType.fingerprint.code) then
        return false
      let covered ← setWord16 (← slice raw 0 s.offset) 2
        (UInt16.ofNat (s.offset - headerLength + 24))
      let received ← slice raw s.valueOffset (s.valueOffset + 20)
      return received == Digest.Hmac.sha1 key covered

theorem slice_append {α : Type} (front middle rest : List α) :
    slice (front ++ middle ++ rest) front.length (front.length + middle.length) = some middle := by
  have hin : front.length ≤ front.length + middle.length ∧
      front.length + middle.length ≤ (front ++ middle ++ rest).length := by
    simp only [List.length_append]
    omega
  rw [slice, if_pos hin, List.take_left' List.length_append, List.drop_left]

/-- Two words stand at every index that is four bytes or more before the end. -/
theorem exists_words {raw : Bytes} {i : Nat} (h : i + 4 ≤ raw.length) :
    ∃ code length, word16 raw i = some code ∧ word16 raw (i + 2) = some length ∧
      raw.drop i = Bytes.ofUInt16 code ++ Bytes.ofUInt16 length ++ raw.drop (i + 4) := by
  have h0 : i < raw.length := by omega
  have h1 : i + 1 < raw.length := by omega
  have h2 : i + 2 < raw.length := by omega
  have h3 : i + 3 < raw.length := by omega
  refine ⟨Bytes.toUInt16 raw[i] raw[i + 1], Bytes.toUInt16 raw[i + 2] raw[i + 3], ?_, ?_, ?_⟩
  · simp [word16, h0, h1]
  · simp [word16, h2, h3]
  · rw [Bytes.ofUInt16_toUInt16, Bytes.ofUInt16_toUInt16, List.drop_eq_getElem_cons h0,
      List.drop_eq_getElem_cons h1, List.drop_eq_getElem_cons h2, List.drop_eq_getElem_cons h3]
    rfl

/-- Where a field stands. -/
def Span.of (f : Field) : Span := ⟨f.code, f.offset, f.offset + 4, f.value.length⟩

/-- The places found by index are those of the attributes that are read. -/
theorem spansFrom_eq (raw : Bytes) (offset : Nat) :
    spansFrom raw offset =
      some ((readFields offset (raw.drop offset)).map (List.map Span.of)) := by
  induction offset using spansFrom.induct raw with
  | case1 offset hin hshort =>
    have hover : Overruns (raw.drop offset) := by
      refine .short ?_ ?_
      · rw [Ne, List.drop_eq_nil_iff]
        omega
      · rw [List.length_drop]
        omega
    rw [spansFrom, if_pos hin, if_pos hshort, readFields_overruns hover]
    rfl
  | case2 offset hin hheader ih =>
    obtain ⟨code, length, hcode, hlength, hdrop⟩ := exists_words (Nat.le_of_not_lt hheader)
    rw [spansFrom, if_pos hin, if_neg hheader, hcode, hlength, hdrop]
    simp only [Option.bind_eq_bind, Option.bind_some]
    split
    · rename_i hlong
      have hover : Overruns (Bytes.ofUInt16 code ++ Bytes.ofUInt16 length ++
          raw.drop (offset + 4)) := by
        refine .long ?_
        rw [List.length_drop]
        omega
      rw [readFields_overruns hover]
      rfl
    · rename_i hfits
      have hpadded : ((raw.drop (offset + 4)).take (paddedLength length.toNat)).length =
          paddedLength length.toNat := by
        rw [List.length_take, List.length_drop]
        omega
      have hstep := readFields_attribute offset code hpadded
        ((raw.drop (offset + 4)).drop (paddedLength length.toNat))
      rw [List.take_append_drop, List.drop_drop] at hstep
      rw [hstep, ih length hfits]
      have hvalue : (((raw.drop (offset + 4)).take (paddedLength length.toNat)).take
          length.toNat).length = length.toNat := by
        rw [List.length_take, hpadded]
        exact Nat.min_eq_left (le_paddedLength _)
      cases readFields _ _ with
      | error e => rfl
      | ok found => simp [Except.map, Span.of, hvalue]
  | case3 offset hend =>
    have hnil : raw.drop offset = [] := List.drop_eq_nil_iff.2 (Nat.le_of_not_lt hend)
    rw [spansFrom, if_neg hend, hnil, readFields]
    rfl

/-- The two highest bits of a type are those of its first byte. -/
theorem high_bits_ne_zero_iff (type : UInt16) :
    UInt8.ofNat (type.toNat / 256) &&& 0xC0 ≠ 0 ↔ 0x4000 ≤ type := by
  have hbyte : ∀ n : Fin 256, UInt8.ofNat n &&& 0xC0 ≠ 0 ↔ 64 ≤ n.val := by decide +kernel
  have hlt := type.toNat_lt
  have hhigh := hbyte ⟨type.toNat / 256, by omega⟩
  rw [hhigh, UInt16.le_iff_toNat_le]
  simp only [UInt16.reduceToNat]
  omega

theorem spans_eq (raw : Bytes) :
    spans raw = some ((fields raw).map (List.map Span.of)) := by
  by_cases hlong : headerLength ≤ raw.length
  · obtain ⟨h, body, rfl⟩ := exists_header hlong
    have hfirst : (h.bytes ++ body)[0]? = some (UInt8.ofNat (h.type.toNat / 256)) := rfl
    have hcookie : word32 (h.bytes ++ body) 4 = some h.cookie :=
      congrArg some (Bytes.toUInt32_ofUInt32 _)
    have hlength : word16 (h.bytes ++ body) 2 = some h.length :=
      congrArg some (Bytes.toUInt16_ofUInt16 _)
    have hactual : (h.bytes ++ body).length - headerLength = body.length := by simp
    have hbody : (h.bytes ++ body).drop headerLength = body := List.drop_left' h.length_bytes
    rw [spans, if_neg (Nat.not_lt.2 hlong), fields_append, hfirst, hcookie, hlength, hactual,
      spansFrom_eq, hbody]
    simp only [Option.bind_eq_bind, Option.bind_some, high_bits_ne_zero_iff, ne_eq]
    split
    · rfl
    · split
      · rfl
      · split
        · rfl
        · rfl
  · have hshort : raw.length < headerLength := Nat.lt_of_not_le hlong
    rw [spans, if_pos hshort, fields, if_pos hshort]
    rfl

/-- The value of an attribute that is read stands at its place, behind the header. -/
theorem slice_value {raw : Bytes} {found : List Field} (h : fields raw = .ok found) {f : Field}
    (hf : f ∈ found) :
    slice raw (f.offset + 4) (f.offset + 4 + f.value.length) = some f.value ∧
      headerLength ≤ f.offset ∧ f.offset + 4 ≤ raw.length := by
  obtain ⟨type, length, id, body, rfl, -, -, attributes⟩ := fields_eq_ok_iff.1 h
  obtain ⟨front, rest, rfl, hoffset, hlow⟩ := attributes.exists_around hf
  have hfront : f.offset + 4 = (frame type length id front).length := by
    rw [length_frame]
    omega
  have hraw : frame type length id (front ++ f.value ++ rest) =
      frame type length id front ++ f.value ++ rest := by
    simp only [frame, List.append_assoc]
  refine ⟨?_, hlow, ?_⟩
  · rw [hraw, hfront]
    exact slice_append _ _ _
  · rw [hraw, hfront]
    simp only [List.length_append]
    omega

theorem mapM_attributeAt {raw : Bytes} {found : List Field}
    (h : ∀ f ∈ found, slice raw (f.offset + 4) (f.offset + 4 + f.value.length) = some f.value) :
    (found.map Span.of).mapM (attributeAt raw) = some (found.map Field.attribute) := by
  induction found with
  | nil => rfl
  | cons f more ih =>
    have hfirst : attributeAt raw (Span.of f) = some f.attribute := by
      simp only [attributeAt, Span.of, h f (List.mem_cons_self ..)]
      rfl
    have hmore := ih fun g hg => h g (List.mem_cons_of_mem _ hg)
    rw [List.map_cons, List.mapM_cons, hfirst, hmore]
    rfl

theorem slice_transactionId {raw : Bytes} (h : headerLength ≤ raw.length) :
    slice raw 8 headerLength = some (Header.of raw).transactionId.toList := by
  rw [slice, if_pos ⟨by decide, h⟩, Header.toList_transactionId_of h, List.drop_take]
  rfl

theorem transactionId_toList (id : TransactionId) : transactionId id.toList = some id := by
  rw [transactionId, dif_pos id.length_toList]
  rfl

/-- Reading by index never leaves the message. -/
theorem decode_eq (raw : Bytes) : decode raw = some (Message.decode raw) := by
  rw [decode, spans_eq, Stun.decode_eq]
  cases h : fields raw with
  | error e => rfl
  | ok found =>
    obtain ⟨type, length, id, body, hraw, -, -, -⟩ := fields_eq_ok_iff.1 h
    have hlong : headerLength ≤ raw.length := by
      rw [hraw, length_frame]
      omega
    have htype : word16 raw 0 = some (Header.of raw).type := by
      rw [hraw]
      rfl
    have hattributes := mapM_attributeAt fun f hf => (slice_value h hf).1
    simp only [Except.map, Option.bind_eq_bind, Option.bind_some, htype, slice_transactionId hlong,
      transactionId_toList, hattributes]
    rfl

end MediaSocket.Stun.Indexed

namespace MediaSocket.Stun

end MediaSocket.Stun
