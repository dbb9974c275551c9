import MediaSocket.Stun.Decode

/-!
The grammar of STUN messages, said without a reader: a header, then attributes, each with its code,
its length, its value and padding of any content up to a multiple of four bytes.
-/

namespace MediaSocket.Stun

/-- Codes and values of attributes, as they stand in bytes from `offset` on. -/
inductive Spells : Nat → Bytes → List Field → Prop
  | nil {offset : Nat} : Spells offset [] []
  | cons {offset : Nat} {code : UInt16} {value padding rest : Bytes} {found : List Field}
      (fits : value.length ≤ lengthLimit)
      (padded : padding.length = paddingLength value.length)
      (more : Spells (offset + 4 + paddedLength value.length) rest found) :
      Spells offset
        (Bytes.ofUInt16 code ++ Bytes.ofUInt16 (UInt16.ofNat value.length) ++ value ++ padding ++
          rest)
        (⟨offset, code, value⟩ :: found)

/-- Bytes that begin an attribute whose padded value does not fit in them. -/
inductive Overruns : Bytes → Prop
  | short {bytes : Bytes} (nonempty : bytes ≠ []) (short : bytes.length < 4) : Overruns bytes
  | long {code length : UInt16} {rest : Bytes} (long : rest.length < paddedLength length.toNat) :
      Overruns (Bytes.ofUInt16 code ++ Bytes.ofUInt16 length ++ rest)

def Header.bytes (h : Header) : Bytes :=
  Bytes.ofUInt16 h.type ++ Bytes.ofUInt16 h.length ++ Bytes.ofUInt32 h.cookie ++
    h.transactionId.toList

def frame (type length : UInt16) (id : TransactionId) (body : Bytes) : Bytes :=
  Bytes.ofUInt16 type ++ Bytes.ofUInt16 length ++ Bytes.ofUInt32 magicCookie ++ id.toList ++ body

/-- Bytes and the message that they spell: the two highest bits are zero, the cookie is right, the
length field is the number of bytes after the header, and these are attributes. -/
inductive Spelling : Bytes → Message → Prop
  | intro {type length : UInt16} {id : TransactionId} {body : Bytes} {found : List Field}
      (low : type < 0x4000)
      (whole : length.toNat = body.length)
      (attributes : Spells headerLength body found) :
      Spelling (frame type length id body)
        ⟨(unpackType type).1, (unpackType type).2, id, found.map Field.attribute⟩

/-- Bytes that spell no message, and the first fault in them. -/
inductive Refused : Bytes → Error → Prop
  | tooShort {raw : Bytes} (short : raw.length < headerLength) : Refused raw (.tooShort raw.length)
  | notStun {h : Header} {body : Bytes} (high : 0x4000 ≤ h.type) :
      Refused (h.bytes ++ body) .notStun
  | badCookie {h : Header} {body : Bytes} (low : h.type < 0x4000) (bad : h.cookie ≠ magicCookie) :
      Refused (h.bytes ++ body) (.badCookie h.cookie)
  | lengthMismatch {type length : UInt16} {id : TransactionId} {body : Bytes}
      (low : type < 0x4000)
      (mismatch : length.toNat ≠ body.length ∨ ¬4 ∣ length.toNat) :
      Refused (frame type length id body) (.lengthMismatch length.toNat body.length)
  | attributeOverrun {type length code size : UInt16} {id : TransactionId} {front rest : Bytes}
      {found : List Field}
      (low : type < 0x4000)
      (whole : length.toNat =
        (front ++ (Bytes.ofUInt16 code ++ Bytes.ofUInt16 size ++ rest)).length)
      (aligned : 4 ∣ length.toNat)
      (before : Spells headerLength front found)
      (long : rest.length < paddedLength size.toNat) :
      Refused
        (frame type length id (front ++ (Bytes.ofUInt16 code ++ Bytes.ofUInt16 size ++ rest)))
        (.attributeOverrun (headerLength + front.length))

end MediaSocket.Stun
