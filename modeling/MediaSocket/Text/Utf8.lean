import MediaSocket.Bytes

/-! UTF-8: the bytes of a text, and a reader that puts U+FFFD for whatever is not UTF-8. -/

namespace MediaSocket.Text.Utf8

def encode (text : List Char) : Bytes :=
  text.flatMap String.utf8EncodeChar

theorem length_encode_toList (text : String) :
    (encode text.toList).length = text.utf8ByteSize := by
  have hbytes : text.toByteArray = (encode text.toList).toByteArray := by
    rw [← String.ofList_toList (s := text), String.toByteArray_ofList, String.ofList_toList]
    rfl
  rw [← String.size_toByteArray, hbytes, List.size_toByteArray]

/-- The character that stands for bytes which are not UTF-8. -/
def replacement : Char := '\uFFFD'

def isTail (b : UInt8) : Bool := 0x80 ≤ b && b ≤ 0xBF

/-- Whether `b` may be the second byte of a three-byte character that starts with `a`: it is no
overlong form and no surrogate. -/
def isSecondOfThree (a b : UInt8) : Bool :=
  isTail b && (a != 0xE0 || 0xA0 ≤ b) && (a != 0xED || b ≤ 0x9F)

/-- Whether `b` may be the second byte of a four-byte character that starts with `a`: it is no
overlong form and not above U+10FFFF. -/
def isSecondOfFour (a b : UInt8) : Bool :=
  isTail b && (a != 0xF0 || 0x90 ≤ b) && (a != 0xF4 || b ≤ 0x8F)

def char2 (a b : UInt8) : Char :=
  Char.ofNat (a.toNat % 32 * 64 + b.toNat % 64)

def char3 (a b c : UInt8) : Char :=
  Char.ofNat ((a.toNat % 16 * 64 + b.toNat % 64) * 64 + c.toNat % 64)

def char4 (a b c d : UInt8) : Char :=
  Char.ofNat (((a.toNat % 8 * 64 + b.toNat % 64) * 64 + c.toNat % 64) * 64 + d.toNat % 64)

/-- The text of a byte string, with one U+FFFD for each longest run of bytes that starts a
character but does not finish it, and for each byte that starts none. -/
def decodeLossy : Bytes → List Char
  | [] => []
  | a :: rest =>
    if a < 0x80 then Char.ofNat a.toNat :: decodeLossy rest
    else if 0xC2 ≤ a ∧ a ≤ 0xDF then
      match rest with
      | b :: rest' =>
        if isTail b then char2 a b :: decodeLossy rest' else replacement :: decodeLossy (b :: rest')
      | [] => [replacement]
    else if 0xE0 ≤ a ∧ a ≤ 0xEF then
      match rest with
      | b :: rest' =>
        if isSecondOfThree a b then
          match rest' with
          | c :: rest'' =>
            if isTail c then char3 a b c :: decodeLossy rest''
            else replacement :: decodeLossy (c :: rest'')
          | [] => [replacement]
        else replacement :: decodeLossy (b :: rest')
      | [] => [replacement]
    else if 0xF0 ≤ a ∧ a ≤ 0xF4 then
      match rest with
      | b :: rest' =>
        if isSecondOfFour a b then
          match rest' with
          | c :: rest'' =>
            if isTail c then
              match rest'' with
              | d :: rest''' =>
                if isTail d then char4 a b c d :: decodeLossy rest'''
                else replacement :: decodeLossy (d :: rest''')
              | [] => [replacement]
            else replacement :: decodeLossy (c :: rest'')
          | [] => [replacement]
        else replacement :: decodeLossy (b :: rest')
      | [] => [replacement]
    else replacement :: decodeLossy rest

end MediaSocket.Text.Utf8
