import MediaSocket.Checksum
import MediaSocket.Digest.Hmac
import MediaSocket.Stun.Attribute
import MediaSocket.Stun.MessageType

/-!
STUN messages and how they are written: a header of 20 bytes, then each attribute with its code,
its length and zeros up to a multiple of four bytes. A signed message ends with MESSAGE-INTEGRITY
and FINGERPRINT, each over all bytes before it, with the length field counting up to its end.
-/

namespace MediaSocket.Stun

structure Message where
  messageClass : MessageClass
  method : Method
  transactionId : TransactionId
  attributes : List Attribute
  deriving DecidableEq, Repr

def headerLength : Nat := 20

/-- The number of bytes that follow a value of `n` bytes up to a multiple of four. -/
def paddingLength (n : Nat) : Nat := (4 - n % 4) % 4

/-- The number of bytes of a value of `n` bytes with its padding. -/
def paddedLength (n : Nat) : Nat := n + paddingLength n

/-- The greatest number that a length field holds. -/
def lengthLimit : Nat := 65535

/-- Code, length, value and padding of an attribute whose length fits. -/
def Attribute.bytes (a : Attribute) : Bytes :=
  Bytes.ofUInt16 a.type.code ++ Bytes.ofUInt16 (UInt16.ofNat a.value.length) ++ a.value ++
    List.replicate (paddingLength a.value.length) 0

def Attribute.encode (a : Attribute) : Except Error Bytes :=
  if a.value.length ≤ lengthLimit then .ok a.bytes
  else .error (.attributeTooLong a.type.code a.value.length)

/-- Attributes one after the other; the first that is too long is reported. -/
def encodeAttributes : List Attribute → Except Error Bytes
  | [] => .ok []
  | a :: rest => do
    let front ← a.encode
    let back ← encodeAttributes rest
    return front ++ back

/-- The length field for `n` bytes after the header. -/
def lengthField (n : Nat) : Except Error UInt16 :=
  if n ≤ lengthLimit then .ok (UInt16.ofNat n) else .error (.messageTooLong n)

namespace Message

def header (m : Message) (length : UInt16) : Bytes :=
  Bytes.ofUInt16 (packType m.messageClass m.method) ++ Bytes.ofUInt16 length ++
    Bytes.ofUInt32 magicCookie ++ m.transactionId.toList

/-- The bytes of a message with its attributes as they are. -/
def encode (m : Message) : Except Error Bytes := do
  let body ← encodeAttributes m.attributes
  let length ← lengthField body.length
  return m.header length ++ body

/-- The attributes that signing keeps. -/
def unsigned (m : Message) : List Attribute :=
  m.attributes.filter fun a => a.type != .messageIntegrity && a.type != .fingerprint

end Message

/-- MESSAGE-INTEGRITY over the bytes before it. -/
def integrity (key covered : Bytes) : Attribute :=
  ⟨.messageIntegrity, Digest.Hmac.sha1 key covered⟩

/-- The FINGERPRINT value for the bytes before it: their checksum, told apart from other uses of
CRC-32 by a constant. -/
def fingerprintValue (covered : Bytes) : Bytes :=
  Bytes.ofUInt32 (Crc32.checksum covered ^^^ 0x5354554E)

/-- FINGERPRINT over the bytes before it. -/
def fingerprint (covered : Bytes) : Attribute :=
  ⟨.fingerprint, fingerprintValue covered⟩

namespace Message

/-- The bytes of a message followed by MESSAGE-INTEGRITY under a key and FINGERPRINT, which take
the place of any it holds. -/
def encodeSigned (m : Message) (key : Bytes) : Except Error Bytes := do
  let body ← encodeAttributes m.unsigned
  let length ← lengthField (body.length + 24)
  let signed := body ++ (integrity key (m.header length ++ body)).bytes
  let length ← lengthField (signed.length + 8)
  return m.header length ++ signed ++ (fingerprint (m.header length ++ signed)).bytes

def attribute? (m : Message) (type : AttributeType) : Option Attribute :=
  m.attributes.find? fun a => a.type == type

/-- A reply with the method and the transaction id of `m`. -/
def reply (m : Message) (messageClass : MessageClass) (attributes : List Attribute) : Message :=
  ⟨messageClass, m.method, m.transactionId, attributes⟩

end Message

end MediaSocket.Stun
