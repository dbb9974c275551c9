import MediaSocket.Text.Utf8

/-! Reading UTF-8 gives every text back that was written. -/

namespace MediaSocket.Text.Utf8

theorem decodeLossy_one {a : UInt8} (ha : a.toNat < 0x80) (rest : Bytes) :
    decodeLossy (a :: rest) = Char.ofNat a.toNat :: decodeLossy rest := by
  have hfirst : a < 0x80 := UInt8.lt_iff_toNat_lt.2 ha
  rw [decodeLossy.eq_def]
  exact if_pos hfirst

theorem decodeLossy_two {a b : UInt8} (ha : 0xC2 ≤ a.toNat ∧ a.toNat ≤ 0xDF)
    (hb : isTail b = true) (rest : Bytes) :
    decodeLossy (a :: b :: rest) = char2 a b :: decodeLossy rest := by
  have h1 : ¬a < 0x80 := by
    rw [UInt8.lt_iff_toNat_lt]
    simp
    omega
  have h2 : 0xC2 ≤ a ∧ a ≤ 0xDF := by
    rw [UInt8.le_iff_toNat_le, UInt8.le_iff_toNat_le]
    exact ha
  rw [decodeLossy.eq_def]
  simp only [if_neg h1, if_pos h2, hb, if_true]

theorem decodeLossy_three {a b c : UInt8} (ha : 0xE0 ≤ a.toNat ∧ a.toNat ≤ 0xEF)
    (hb : isSecondOfThree a b = true) (hc : isTail c = true) (rest : Bytes) :
    decodeLossy (a :: b :: c :: rest) = char3 a b c :: decodeLossy rest := by
  have h1 : ¬a < 0x80 := by
    rw [UInt8.lt_iff_toNat_lt]
    simp
    omega
  have h2 : ¬(0xC2 ≤ a ∧ a ≤ 0xDF) := by
    rw [UInt8.le_iff_toNat_le, UInt8.le_iff_toNat_le]
    simp
    omega
  have h3 : 0xE0 ≤ a ∧ a ≤ 0xEF := by
    rw [UInt8.le_iff_toNat_le, UInt8.le_iff_toNat_le]
    exact ha
  rw [decodeLossy.eq_def]
  simp only [if_neg h1, if_neg h2, if_pos h3, hb, hc, if_true]

theorem decodeLossy_four {a b c d : UInt8} (ha : 0xF0 ≤ a.toNat ∧ a.toNat ≤ 0xF4)
    (hb : isSecondOfFour a b = true) (hc : isTail c = true) (hd : isTail d = true) (rest : Bytes) :
    decodeLossy (a :: b :: c :: d :: rest) = char4 a b c d :: decodeLossy rest := by
  have h1 : ¬a < 0x80 := by
    rw [UInt8.lt_iff_toNat_lt]
    simp
    omega
  have h2 : ¬(0xC2 ≤ a ∧ a ≤ 0xDF) := by
    rw [UInt8.le_iff_toNat_le, UInt8.le_iff_toNat_le]
    simp
    omega
  have h3 : ¬(0xE0 ≤ a ∧ a ≤ 0xEF) := by
    rw [UInt8.le_iff_toNat_le, UInt8.le_iff_toNat_le]
    simp
    omega
  have h4 : 0xF0 ≤ a ∧ a ≤ 0xF4 := by
    rw [UInt8.le_iff_toNat_le, UInt8.le_iff_toNat_le]
    exact ha
  rw [decodeLossy.eq_def]
  simp only [if_neg h1, if_neg h2, if_neg h3, if_pos h4, hb, hc, hd, if_true]

theorem toNat_tail (n : Nat) : (UInt8.ofNat (n % 64 + 0x80)).toNat = n % 64 + 0x80 := by
  rw [UInt8.toNat_ofNat']
  omega

theorem isTail_tail (n : Nat) : isTail (UInt8.ofNat (n % 64 + 0x80)) = true := by
  simp only [isTail, Bool.and_eq_true, decide_eq_true_eq, UInt8.le_iff_toNat_le, toNat_tail]
  simp
  omega

/-- The first byte of a character of three bytes, and of one of four, leaves its second byte a
continuation that is no overlong form, no surrogate and not above U+10FFFF. -/
theorem isSecondOfThree_tail {v : Nat} (hlow : 0x7FF < v) (hhigh : v ≤ 0xFFFF)
    (hvalid : v < 0xD800 ∨ 0xDFFF < v) :
    isSecondOfThree (UInt8.ofNat (v / 4096 % 16 + 0xE0)) (UInt8.ofNat (v / 64 % 64 + 0x80)) =
      true := by
  have hfirst : (UInt8.ofNat (v / 4096 % 16 + 0xE0)).toNat = v / 4096 + 0xE0 := by
    rw [UInt8.toNat_ofNat']
    omega
  have hsecond := toNat_tail (v / 64)
  rw [isSecondOfThree, isTail_tail, Bool.true_and]
  simp only [Bool.and_eq_true, Bool.or_eq_true, bne_iff_ne, decide_eq_true_eq, ne_eq,
    UInt8.le_iff_toNat_le, ← UInt8.toNat_inj, hfirst, hsecond, UInt8.toNat_ofNat]
  omega

theorem isSecondOfFour_tail {v : Nat} (hlow : 0xFFFF < v) (hhigh : v < 0x110000) :
    isSecondOfFour (UInt8.ofNat (v / 262144 % 8 + 0xF0)) (UInt8.ofNat (v / 4096 % 64 + 0x80)) =
      true := by
  have hfirst : (UInt8.ofNat (v / 262144 % 8 + 0xF0)).toNat = v / 262144 + 0xF0 := by
    rw [UInt8.toNat_ofNat']
    omega
  have hsecond := toNat_tail (v / 4096)
  rw [isSecondOfFour, isTail_tail, Bool.true_and]
  simp only [Bool.and_eq_true, Bool.or_eq_true, bne_iff_ne, decide_eq_true_eq, ne_eq,
    UInt8.le_iff_toNat_le, ← UInt8.toNat_inj, hfirst, hsecond, UInt8.toNat_ofNat]
  omega

theorem decodeLossy_utf8EncodeChar (c : Char) (rest : Bytes) :
    decodeLossy (String.utf8EncodeChar c ++ rest) = c :: decodeLossy rest := by
  have hvalid : c.val.toNat < 0xD800 ∨ 0xDFFF < c.val.toNat ∧ c.val.toNat < 0x110000 := c.valid
  have hc : Char.ofNat c.val.toNat = c := Char.ofNat_toNat c
  rw [String.utf8EncodeChar]
  generalize c.val.toNat = v at hvalid hc
  split
  · have hfirst : (UInt8.ofNat v).toNat = v := by
      rw [UInt8.toNat_ofNat']
      omega
    rw [List.singleton_append, decodeLossy_one (by omega), hfirst, hc]
  split
  · have hfirst : (UInt8.ofNat (v / 64 % 0x20 + 0xC0)).toNat = v / 64 + 0xC0 := by
      rw [UInt8.toNat_ofNat']
      omega
    have hvalue : (v / 64 + 0xC0) % 32 * 64 + (v % 64 + 0x80) % 64 = v := by omega
    rw [List.cons_append, List.singleton_append, decodeLossy_two (by omega) (isTail_tail v), char2,
      hfirst, toNat_tail, hvalue, hc]
  split
  · have hfirst : (UInt8.ofNat (v / 4096 % 0x10 + 0xE0)).toNat = v / 4096 + 0xE0 := by
      rw [UInt8.toNat_ofNat']
      omega
    have hsecond := isSecondOfThree_tail (v := v) (by omega) (by omega) (by omega)
    have hvalue : ((v / 4096 + 0xE0) % 16 * 64 + (v / 64 % 64 + 0x80) % 64) * 64 +
        (v % 64 + 0x80) % 64 = v := by omega
    rw [List.cons_append, List.cons_append, List.singleton_append,
      decodeLossy_three (by omega) hsecond (isTail_tail v), char3, hfirst, toNat_tail, toNat_tail,
      hvalue, hc]
  · have hfirst : (UInt8.ofNat (v / 262144 % 0x08 + 0xF0)).toNat = v / 262144 + 0xF0 := by
      rw [UInt8.toNat_ofNat']
      omega
    have hsecond := isSecondOfFour_tail (v := v) (by omega) (by omega)
    have hvalue : (((v / 262144 + 0xF0) % 8 * 64 + (v / 4096 % 64 + 0x80) % 64) * 64 +
        (v / 64 % 64 + 0x80) % 64) * 64 + (v % 64 + 0x80) % 64 = v := by omega
    rw [List.cons_append, List.cons_append, List.cons_append, List.singleton_append,
      decodeLossy_four (by omega) hsecond (isTail_tail (v / 64)) (isTail_tail v), char4, hfirst,
      toNat_tail, toNat_tail, toNat_tail, hvalue, hc]

theorem decodeLossy_encode (text : List Char) : decodeLossy (encode text) = text := by
  induction text with
  | nil => rfl
  | cons c text ih =>
    rw [encode, List.flatMap_cons, decodeLossy_utf8EncodeChar, ← encode, ih]

theorem decodeLossy_of_ascii {bytes : Bytes} (h : ∀ b ∈ bytes, b.toNat < 0x80) :
    decodeLossy bytes = bytes.map fun b => Char.ofNat b.toNat := by
  induction bytes with
  | nil => rfl
  | cons b bytes ih =>
    obtain ⟨hb, hbytes⟩ := List.forall_mem_cons.1 h
    rw [decodeLossy_one hb, ih hbytes, List.map_cons]

/-- In a text of ASCII characters every byte is a character. -/
theorem map_ofNat_encode {text : List Char} (h : ∀ b ∈ encode text, b.toNat < 0x80) :
    (encode text).map (fun b => Char.ofNat b.toNat) = text := by
  rw [← decodeLossy_of_ascii h, decodeLossy_encode]

end MediaSocket.Text.Utf8
