import MediaSocket.Address
import MediaSocket.Stun.Error
import MediaSocket.Text.Utf8

/-! STUN attributes: their types, and the values that a responder builds and reads. -/

namespace MediaSocket.Stun

/-- The type of an attribute. `other` may hold any code, also one that has a name; it is then a
type of its own with the same code. -/
inductive AttributeType where
  | mappedAddress
  | username
  | messageIntegrity
  | errorCode
  | unknownAttributes
  | realm
  | nonce
  | xorMappedAddress
  | priority
  | useCandidate
  | software
  | fingerprint
  | iceControlled
  | iceControlling
  | other (code : UInt16)
  deriving DecidableEq, Repr

namespace AttributeType

def code : AttributeType → UInt16
  | .mappedAddress => 0x0001
  | .username => 0x0006
  | .messageIntegrity => 0x0008
  | .errorCode => 0x0009
  | .unknownAttributes => 0x000A
  | .realm => 0x0014
  | .nonce => 0x0015
  | .xorMappedAddress => 0x0020
  | .priority => 0x0024
  | .useCandidate => 0x0025
  | .software => 0x8022
  | .fingerprint => 0x8028
  | .iceControlled => 0x8029
  | .iceControlling => 0x802A
  | .other code => code

def named : List AttributeType :=
  [.mappedAddress, .username, .messageIntegrity, .errorCode, .unknownAttributes, .realm, .nonce,
   .xorMappedAddress, .priority, .useCandidate, .software, .fingerprint, .iceControlled,
   .iceControlling]

/-- The type that a code in a message stands for. -/
def ofCode (code : UInt16) : AttributeType :=
  (named.find? fun t => t.code == code).getD (.other code)

end AttributeType

/-- An attribute: its type, and its value without padding. -/
structure Attribute where
  type : AttributeType
  value : Bytes
  deriving DecidableEq, Repr

/-- The 12 bytes that pair a reply with its request. -/
abbrev TransactionId := Vector UInt8 12

def magicCookie : UInt32 := 0x2112A442

/-- What addresses are hidden with: the cookie, then the transaction id. -/
def addressMask (id : TransactionId) : Bytes :=
  Bytes.ofUInt32 magicCookie ++ id.toList

/-- What ports are hidden with: the first half of the cookie. -/
def portMask : UInt16 := 0x2112

namespace Attribute

def username (text : String) : Attribute := ⟨.username, Text.Utf8.encode text.toList⟩

def software (text : String) : Attribute := ⟨.software, Text.Utf8.encode text.toList⟩

/-- ERROR-CODE: three bits for the hundreds, a byte for the rest, then the reason. -/
def errorCode (code : UInt16) (reason : String) : Attribute :=
  ⟨.errorCode,
    0 :: 0 :: UInt8.ofNat (code.toNat / 100 % 8) :: UInt8.ofNat (code.toNat % 100) ::
      Text.Utf8.encode reason.toList⟩

def readErrorCode (a : Attribute) : Except Error (UInt16 × String) :=
  match a.type, a.value with
  | .errorCode, _ :: _ :: hundreds :: rest :: reason =>
    .ok (UInt16.ofNat (hundreds.toNat % 8 * 100 + rest.toNat),
      String.ofList (Text.Utf8.decodeLossy reason))
  | _, _ => .error (.badAttribute "not an ERROR-CODE attribute")

def xorMappedAddress (a : Address) (id : TransactionId) : Attribute :=
  ⟨.xorMappedAddress,
    0 :: (if a.isIpv4 then 1 else 2) :: Bytes.ofUInt16 (a.port ^^^ portMask) ++
      List.zipWith (· ^^^ ·) a.ip.octets (addressMask id)⟩

/-- The host in a XOR-MAPPED-ADDRESS of the given family. -/
def readXorHost (family : UInt8) (hidden : Bytes) (id : TransactionId) : Except Error Ip :=
  let octets := List.zipWith (· ^^^ ·) hidden (addressMask id)
  if family = 1 then
    if hidden.length = 4 then .ok (.v4 (.ofBytes octets))
    else .error (.badAttribute "bad IPv4 XOR-MAPPED-ADDRESS length")
  else if family = 2 then
    if hidden.length = 16 then .ok (.v6 (.ofBytes octets))
    else .error (.badAttribute "bad IPv6 XOR-MAPPED-ADDRESS length")
  else .error (.unsupportedFamily family)

/-- The address in a XOR-MAPPED-ADDRESS, under the transaction id of its message. -/
def readXorMappedAddress (a : Attribute) (id : TransactionId) : Except Error Address :=
  if a.type = .xorMappedAddress then
    match a.value with
    | _ :: family :: p1 :: p2 :: hidden =>
      (readXorHost family hidden id).map (.mk · (Bytes.toUInt16 p1 p2 ^^^ portMask))
    | _ => .error (.badAttribute "XOR-MAPPED-ADDRESS too short")
  else .error (.badAttribute "not a XOR-MAPPED-ADDRESS attribute")

end Attribute

end MediaSocket.Stun
