import MediaSocket.Address.Text
import MediaSocket.Digest.Sha256
import MediaSocket.Text.Hex
import MediaSocket.Text.Quoted
import MediaSocket.Text.Utf8

/-! Association ids: 16 bytes that name a peer, derived one-way from the text of its address. -/

namespace MediaSocket

/-- How much of the digest of an address an id keeps. -/
inductive IdWidth where
  /-- 16 bytes. -/
  | wide
  /-- 2 bytes, then zeros. -/
  | narrow
  deriving DecidableEq, Repr

/-- The number of digest bytes kept. -/
def IdWidth.kept : IdWidth → Nat
  | .wide => 16
  | .narrow => 2

structure AssociationId where
  bytes : Vector UInt8 16
  deriving DecidableEq, Repr

namespace AssociationId

/-- The id with these leading bytes, zeros after them. -/
def ofBytes (bytes : Bytes) : AssociationId := ⟨Vector.ofFn fun i => bytes.getD i 0⟩

/-- The id whose bytes are the number in 128 bits. -/
def ofNat (n : Nat) : AssociationId :=
  ofBytes (Bytes.ofCount (n / 18446744073709551616) ++ Bytes.ofCount n)

/-- The id of an address: the leading bytes of the SHA-256 of its text. -/
def derive (a : Address) (width : IdWidth) : AssociationId :=
  ofBytes ((Digest.Sha256.digest (Text.Utf8.encode a.chars)).take width.kept)

def hex (id : AssociationId) : List Char := Text.Hex.encode id.bytes.toList

def text (id : AssociationId) : String := String.ofList id.hex

def describe (id : AssociationId) : String := s!"AssociationId({id.text})"

def isZero (id : AssociationId) : Bool := id.bytes.toList.all (· == 0)

inductive ParseError where
  | hex (cause : Text.Hex.Error)
  | tooLong
  deriving DecidableEq, Repr

/-- The wording of an error. A byte that is no digit is shown as the character with its number. -/
def ParseError.message : ParseError → String
  | .hex .oddLength => "Odd number of digits"
  | .hex (.badDigit byte index) =>
    let shown := String.ofList (Text.Quoted.char (Char.ofNat byte.toNat))
    s!"Invalid character {shown} at position {index}"
  | .tooLong => "Invalid string length"

/-- The id with this text: at most 32 digits, which give the leading bytes. -/
def ofText (text : String) : Except ParseError AssociationId :=
  match Text.Hex.decode (Text.Utf8.encode text.toList) with
  | .error e => .error (.hex e)
  | .ok bytes => if bytes.length ≤ 16 then .ok (ofBytes bytes) else .error .tooLong

/-- The order of ids: byte by byte. -/
instance : LE AssociationId := ⟨fun a b => a.bytes.toList ≤ b.bytes.toList⟩

instance : LT AssociationId := ⟨fun a b => a.bytes.toList < b.bytes.toList⟩

instance : DecidableLE AssociationId :=
  fun a b => inferInstanceAs (Decidable (a.bytes.toList ≤ b.bytes.toList))

instance : DecidableLT AssociationId :=
  fun a b => inferInstanceAs (Decidable (a.bytes.toList < b.bytes.toList))

end AssociationId

end MediaSocket
