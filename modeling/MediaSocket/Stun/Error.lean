import MediaSocket.Bytes
import MediaSocket.Text.Hex
import MediaSocket.Text.Numeral

/-! Why a STUN message cannot be read, written or answered. -/

namespace MediaSocket.Stun

inductive Error where
  /-- Fewer bytes than a header. -/
  | tooShort (length : Nat)
  /-- One of the two highest bits is set. -/
  | notStun
  | badCookie (cookie : UInt32)
  /-- The length field is not the number of bytes after the header, or no multiple of four. -/
  | lengthMismatch (declared actual : Nat)
  /-- The attribute at `offset` does not end within the message. -/
  | attributeOverrun (offset : Nat)
  | attributeTooLong (code : UInt16) (length : Nat)
  | messageTooLong (length : Nat)
  | softwareTooLong (length : Nat)
  | unsupportedFamily (family : UInt8)
  | badAttribute (reason : String)
  | fingerprintMismatch
  | badKey
  | badPassword (length : Nat)
  deriving DecidableEq, Repr

/-- A number in hexadecimal after `0x`, with at least `width` digits. -/
def hexText (width n : Nat) : String :=
  "0x" ++ String.ofList (Text.Hex.padded width n)

def Error.message : Error → String
  | .tooShort length => s!"Packet too small for STUN header ({length} bytes)"
  | .notStun => "Invalid STUN message: leading bits not zero"
  | .badCookie cookie => "Invalid STUN magic cookie: " ++ hexText 8 cookie.toNat
  | .lengthMismatch declared actual =>
    s!"STUN length field {declared} does not match {actual} attribute bytes"
  | .attributeOverrun offset => s!"STUN attribute at offset {offset} overruns the message"
  | .attributeTooLong code length =>
    let name := hexText 4 code.toNat
    s!"STUN attribute {name} value of {length} bytes exceeds the length field"
  | .messageTooLong length => s!"STUN message body of {length} bytes exceeds the length field"
  | .softwareTooLong length => s!"SOFTWARE value of {length} bytes exceeds 763 bytes"
  | .unsupportedFamily family => s!"Unsupported address family: {family}"
  | .badAttribute reason => "Invalid STUN attribute: " ++ reason
  | .fingerprintMismatch => "FINGERPRINT does not match message contents"
  | .badKey => "Invalid MESSAGE-INTEGRITY key"
  | .badPassword length => s!"ICE password must be 22 to 256 characters, got {length}"

end MediaSocket.Stun
