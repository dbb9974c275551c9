import MediaSocket.Bytes

/-! Hexadecimal text: two lowercase digits per byte, read back in either case. -/

namespace MediaSocket.Text.Hex

def digits (b : UInt8) : List Char :=
  [Nat.digitChar (b.toNat / 16), Nat.digitChar (b.toNat % 16)]

def encode (bytes : Bytes) : List Char :=
  bytes.flatMap digits

/-- The least `width` digits of a number, filled up with zeros on the left. -/
def padded (width n : Nat) : List Char :=
  let ds := Nat.toDigits 16 n
  List.replicate (width - ds.length) '0' ++ ds

/-- The value of a hexadecimal digit, given as an ASCII byte. -/
def value? (b : UInt8) : Option Nat :=
  let n := b.toNat
  if 48 ≤ n ∧ n ≤ 57 then some (n - 48)
  else if 97 ≤ n ∧ n ≤ 102 then some (n - 87)
  else if 65 ≤ n ∧ n ≤ 70 then some (n - 55)
  else none

inductive Error where
  /-- The number of bytes is odd. -/
  | oddLength
  /-- `byte`, at `index`, is not a digit. -/
  | badDigit (byte : UInt8) (index : Nat)
  deriving DecidableEq, Repr

/-- The bytes that pairs of digits stand for, `index` being the place of the first digit. -/
def decodeFrom (index : Nat) : Bytes → Except Error Bytes
  | [] => .ok []
  | [_] => .error .oddLength
  | high :: low :: rest =>
    match value? high, value? low with
    | none, _ => .error (.badDigit high index)
    | some _, none => .error (.badDigit low (index + 1))
    | some h, some l => (decodeFrom (index + 2) rest).map (UInt8.ofNat (h * 16 + l) :: ·)

/-- The bytes of a hexadecimal text, given in UTF-8: an odd length is reported before any digit. -/
def decode (text : Bytes) : Except Error Bytes :=
  if text.length % 2 = 1 then .error .oddLength else decodeFrom 0 text

end MediaSocket.Text.Hex
