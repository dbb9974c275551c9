import MediaSocket.Stun.Message

/-!
STUN messages from their bytes: the header is checked first, then the attributes are split off one
by one. Whether the FINGERPRINT and the MESSAGE-INTEGRITY of a message are right is decided on the
bytes as received.
-/

namespace MediaSocket.Stun

/-- An attribute as it stands in a message, `offset` being where its code stands. -/
structure Field where
  offset : Nat
  code : UInt16
  value : Bytes
  deriving DecidableEq, Repr

/-- The attributes in the bytes from `offset` on. -/
def readFields (offset : Nat) (bytes : Bytes) : Except Error (List Field) :=
  match bytes with
  | [] => .ok []
  | c1 :: c2 :: n1 :: n2 :: rest =>
    let n := (Bytes.toUInt16 n1 n2).toNat
    match h : Bytes.splitAt? (paddedLength n) rest with
    | none => .error (.attributeOverrun offset)
    | some (padded, rest') =>
      have : rest'.length ≤ rest.length := by
        rw [(Bytes.splitAt?_eq_some_iff.1 h).1]
        simp
      (readFields (offset + 4 + paddedLength n) rest').map
        (⟨offset, Bytes.toUInt16 c1 c2, padded.take n⟩ :: ·)
  | _ => .error (.attributeOverrun offset)
termination_by bytes.length

@[ext] structure Header where
  type : UInt16
  length : UInt16
  cookie : UInt32
  transactionId : TransactionId
  deriving DecidableEq, Repr

def Header.of (raw : Bytes) : Header where
  type := Bytes.toUInt16 (raw.getD 0 0) (raw.getD 1 0)
  length := Bytes.toUInt16 (raw.getD 2 0) (raw.getD 3 0)
  cookie := Bytes.toUInt32 (raw.getD 4 0) (raw.getD 5 0) (raw.getD 6 0) (raw.getD 7 0)
  transactionId := Vector.ofFn fun i => raw.getD (8 + i) 0

def Header.messageClass (h : Header) : MessageClass := (unpackType h.type).1

/-- The attributes of a message, once its header has been checked. -/
def fields (raw : Bytes) : Except Error (List Field) :=
  let header := Header.of raw
  let declared := header.length.toNat
  let actual := raw.length - headerLength
  if raw.length < headerLength then .error (.tooShort raw.length)
  else if 0x4000 ≤ header.type then .error .notStun
  else if header.cookie ≠ magicCookie then .error (.badCookie header.cookie)
  else if declared % 4 ≠ 0 ∨ declared ≠ actual then .error (.lengthMismatch declared actual)
  else readFields headerLength (raw.drop headerLength)

def Field.attribute (f : Field) : Attribute := ⟨.ofCode f.code, f.value⟩

namespace Message

/-- The message that these bytes hold. -/
def decode (raw : Bytes) : Except Error Message := do
  let found ← fields raw
  let header := Header.of raw
  let (messageClass, method) := unpackType header.type
  return ⟨messageClass, method, header.transactionId, found.map Field.attribute⟩

end Message

/-- Whether the last attribute of a message is a FINGERPRINT that fits the bytes before it. -/
def verifyFingerprint (raw : Bytes) : Bool :=
  match fields raw with
  | .error _ => false
  | .ok found =>
    match found.getLast? with
    | none => false
    | some f =>
      f.code == AttributeType.fingerprint.code && f.value == fingerprintValue (raw.take f.offset)

def withLength (raw : Bytes) (length : Nat) : Bytes :=
  raw.take 2 ++ Bytes.ofUInt16 (UInt16.ofNat length) ++ raw.drop 4

/-- Whether the first MESSAGE-INTEGRITY of a message is right under a key and nothing but
FINGERPRINT follows it. The bytes before it are taken with the length that a message ending with it
has. -/
def verifyIntegrity (raw key : Bytes) : Bool :=
  match fields raw with
  | .error _ => false
  | .ok found =>
    match found.dropWhile fun f => f.code != AttributeType.messageIntegrity.code with
    | [] => false
    | f :: trailing =>
      trailing.all (fun t => t.code == AttributeType.fingerprint.code) &&
        f.value == Digest.Hmac.sha1 key
          (withLength (raw.take f.offset) (f.offset - headerLength + 24))

end MediaSocket.Stun
