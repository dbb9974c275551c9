/-! Byte strings, and numbers as big-endian bytes. -/

namespace MediaSocket

/-- A byte string, the first byte first. -/
abbrev Bytes := List UInt8

namespace Bytes

/-- The two bytes of a 16-bit word, the high byte first. -/
def ofUInt16 (w : UInt16) : Bytes :=
  [UInt8.ofNat (w.toNat / 256), UInt8.ofNat w.toNat]

/-- The four bytes of a 32-bit word, the high byte first. -/
def ofUInt32 (w : UInt32) : Bytes :=
  [UInt8.ofNat (w.toNat / 16777216), UInt8.ofNat (w.toNat / 65536), UInt8.ofNat (w.toNat / 256),
    UInt8.ofNat w.toNat]

/-- The eight bytes of a 64-bit count, the high byte first; larger counts wrap. -/
def ofCount (n : Nat) : Bytes :=
  ofUInt32 (UInt32.ofNat (n / 4294967296)) ++ ofUInt32 (UInt32.ofNat n)

def toUInt16 (high low : UInt8) : UInt16 :=
  UInt16.ofNat (high.toNat * 256 + low.toNat)

def toUInt32 (a b c d : UInt8) : UInt32 :=
  UInt32.ofNat (((a.toNat * 256 + b.toNat) * 256 + c.toNat) * 256 + d.toNat)

/-- The first `n` bytes and what follows them, if there are that many. -/
def splitAt? (n : Nat) (bytes : Bytes) : Option (Bytes × Bytes) :=
  let parts := bytes.splitAt n
  if parts.1.length = n then some parts else none

@[simp] theorem length_ofUInt16 (w : UInt16) : (ofUInt16 w).length = 2 := rfl

@[simp] theorem length_ofUInt32 (w : UInt32) : (ofUInt32 w).length = 4 := rfl

theorem toUInt16_ofUInt16 (w : UInt16) :
    toUInt16 (UInt8.ofNat (w.toNat / 256)) (UInt8.ofNat w.toNat) = w := by
  have := w.toNat_lt
  apply UInt16.toNat_inj.1
  simp [toUInt16]
  omega

theorem toUInt32_ofUInt32 (w : UInt32) :
    toUInt32 (UInt8.ofNat (w.toNat / 16777216)) (UInt8.ofNat (w.toNat / 65536))
      (UInt8.ofNat (w.toNat / 256)) (UInt8.ofNat w.toNat) = w := by
  have := w.toNat_lt
  apply UInt32.toNat_inj.1
  simp [toUInt32]
  omega

theorem ofUInt16_toUInt16 (a b : UInt8) : ofUInt16 (toUInt16 a b) = [a, b] := by
  have := a.toNat_lt
  have := b.toNat_lt
  have high : UInt8.ofNat ((toUInt16 a b).toNat / 256) = a := by
    apply UInt8.toNat_inj.1
    simp [toUInt16]
    omega
  have low : UInt8.ofNat (toUInt16 a b).toNat = b := by
    apply UInt8.toNat_inj.1
    simp [toUInt16]
  rw [ofUInt16, high, low]

theorem ofUInt32_toUInt32 (a b c d : UInt8) : ofUInt32 (toUInt32 a b c d) = [a, b, c, d] := by
  have ha := a.toNat_lt
  have hb := b.toNat_lt
  have hc := c.toNat_lt
  have hd := d.toNat_lt
  have hword : (toUInt32 a b c d).toNat =
      ((a.toNat * 256 + b.toNat) * 256 + c.toNat) * 256 + d.toNat := by
    simp only [toUInt32, UInt32.toNat_ofNat']
    omega
  have byte (n : Nat) (e : UInt8) (h : n % 256 = e.toNat) : UInt8.ofNat n = e := by
    apply UInt8.toNat_inj.1
    simpa using h
  simp only [ofUInt32, hword, List.cons.injEq, and_true]
  refine ⟨byte _ a ?_, byte _ b ?_, byte _ c ?_, byte _ d ?_⟩ <;> omega

theorem splitAt?_eq_some_iff {n : Nat} {bytes front rest : Bytes} :
    splitAt? n bytes = some (front, rest) ↔ bytes = front ++ rest ∧ front.length = n := by
  simp only [splitAt?, List.splitAt_eq, Option.ite_none_right_eq_some, Option.some.injEq,
    Prod.mk.injEq]
  constructor
  · rintro ⟨h, rfl, rfl⟩
    exact ⟨(List.take_append_drop n bytes).symm, h⟩
  · rintro ⟨rfl, rfl⟩
    simp

theorem splitAt?_append {n : Nat} {front : Bytes} (h : front.length = n) (rest : Bytes) :
    splitAt? n (front ++ rest) = some (front, rest) :=
  splitAt?_eq_some_iff.2 ⟨rfl, h⟩

theorem splitAt?_eq_none_iff {n : Nat} {bytes : Bytes} :
    splitAt? n bytes = none ↔ bytes.length < n := by
  simp only [splitAt?, List.splitAt_eq, ite_eq_right_iff, List.length_take, reduceCtorEq,
    imp_false]
  omega

/-- An array that is read byte by byte ends with zeros if there are fewer bytes. -/
theorem toList_ofFn_getD {n : Nat} {bytes : Bytes} (h : bytes.length ≤ n) :
    (Vector.ofFn fun i : Fin n => bytes.getD i 0).toList =
      bytes ++ List.replicate (n - bytes.length) 0 := by
  rw [Vector.toList_ofFn]
  refine List.ext_getElem (by simp [h]) fun i hi hi' => ?_
  rw [List.getElem_ofFn]
  obtain hfront | hback := Nat.lt_or_ge i bytes.length
  · rw [List.getElem_append_left hfront]
    exact (List.getElem_eq_getD 0).symm
  · rw [List.getElem_append_right hback, List.getElem_replicate]
    rw [List.getD_eq_getElem?_getD, List.getElem?_eq_none hback, Option.getD_none]

theorem toList_ofFn_getD_of_length {n : Nat} {bytes : Bytes} (h : bytes.length = n) :
    (Vector.ofFn fun i : Fin n => bytes.getD i 0).toList = bytes := by
  rw [toList_ofFn_getD (Nat.le_of_eq h), h, Nat.sub_self, List.replicate_zero, List.append_nil]

end Bytes

end MediaSocket
