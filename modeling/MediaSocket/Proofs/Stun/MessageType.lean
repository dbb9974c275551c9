import MediaSocket.Stun.Canonical

/-! Message types hold a class and a method: unpacking a packed type gives the class back and the
method as it is canonically, and whatever is unpacked is canonical. -/

namespace MediaSocket.Stun

theorem MessageClass.number_lt (c : MessageClass) : c.number < 4 := by
  cases c <;> decide

@[simp] theorem MessageClass.ofNumber_number (c : MessageClass) : ofNumber c.number = c := by
  cases c <;> rfl

/-- A packed type from the parts of its method, `M11…M7`, `M6…M4` and `M3…M0`, and the bits of its
class. -/
theorem toNat_packType {c : MessageClass} {m : Method} {high mid low c1 c0 : Nat}
    (hm : m.number = high * 128 + mid * 16 + low) (hmid : mid < 8) (hlow : low < 16)
    (hc : c.number = c1 * 2 + c0) (hc0 : c0 < 2) :
    (packType c m).toNat = high * 512 + c1 * 256 + mid * 32 + c0 * 16 + low := by
  have hlt := m.number_lt
  have hclt := c.number_lt
  have h128 : m.number / 128 = high := by omega
  have h16 : m.number / 16 % 8 = mid := by omega
  have h1 : m.number % 16 = low := by omega
  have hd : c.number / 2 = c1 := by omega
  have hr : c.number % 2 = c0 := by omega
  simp only [packType, UInt16.toNat_ofNat', h128, h16, h1, hd, hr]
  omega

/-- The parts that a method and a class have. -/
theorem exists_parts (c : MessageClass) (m : Method) :
    ∃ high mid low c1 c0, m.number = high * 128 + mid * 16 + low ∧ high < 32 ∧ mid < 8 ∧
      low < 16 ∧ c.number = c1 * 2 + c0 ∧ c1 < 2 ∧ c0 < 2 := by
  have hm := m.number_lt
  have hc := c.number_lt
  refine ⟨m.number / 128, m.number % 128 / 16, m.number % 16, c.number / 2, c.number % 2, ?_⟩
  omega

/-- The two highest bits of a packed type are zero. -/
theorem packType_lt (c : MessageClass) (m : Method) : packType c m < 0x4000 := by
  obtain ⟨high, mid, low, c1, c0, hm, hhigh, hmid, hlow, hc, hc1, hc0⟩ := exists_parts c m
  rw [UInt16.lt_iff_toNat_lt, toNat_packType hm hmid hlow hc hc0]
  simp
  omega

theorem unpackType_packType (c : MessageClass) (m : Method) :
    unpackType (packType c m) = (c, m.canonical) := by
  obtain ⟨high, mid, low, c1, c0, hm, hhigh, hmid, hlow, hc, hc1, hc0⟩ := exists_parts c m
  have ht := toNat_packType hm hmid hlow hc hc0
  have h512 : (packType c m).toNat / 512 % 32 = high := by omega
  have h256 : (packType c m).toNat / 256 % 2 = c1 := by omega
  have h32 : (packType c m).toNat / 32 % 8 = mid := by omega
  have h16 : (packType c m).toNat / 16 % 2 = c0 := by omega
  have h1 : (packType c m).toNat % 16 = low := by omega
  simp only [unpackType, h512, h256, h32, h16, h1, ← hm, ← hc, MessageClass.ofNumber_number,
    Method.canonical]

theorem MessageClass.number_ofNumber (n : Nat) : (ofNumber n).number = n % 4 := by
  have hcases : n % 4 = 0 ∨ n % 4 = 1 ∨ n % 4 = 2 ∨ n % 4 = 3 := by omega
  rcases hcases with h | h | h | h <;> simp [ofNumber, h, number]

theorem Method.number_ofNumber (n : Nat) : (ofNumber n).number = n % 4096 := by
  unfold ofNumber
  split
  · rename_i h
    rw [h]
    rfl
  · have hlt : n % 4096 < 4096 := Nat.mod_lt _ (by decide)
    rw [number, UInt16.toNat_ofNat', Nat.mod_eq_of_lt (show n % 4096 < 2 ^ 16 by omega),
      Nat.mod_mod]

/-- Class and method hold all 14 bits of a type. -/
theorem packType_unpackType {type : UInt16} (low : type < 0x4000) :
    packType (unpackType type).1 (unpackType type).2 = type := by
  have hlt : type.toNat < 16384 := UInt16.lt_iff_toNat_lt.1 low
  have hm : (unpackType type).2.number =
      type.toNat / 512 * 128 + type.toNat / 32 % 8 * 16 + type.toNat % 16 := by
    show (Method.ofNumber _).number = _
    rw [Method.number_ofNumber]
    omega
  have hc : (unpackType type).1.number = type.toNat / 256 % 2 * 2 + type.toNat / 16 % 2 := by
    show (MessageClass.ofNumber _).number = _
    rw [MessageClass.number_ofNumber]
    omega
  apply UInt16.toNat_inj.1
  rw [toNat_packType hm (Nat.mod_lt _ (by decide)) (Nat.mod_lt _ (by decide)) hc
    (Nat.mod_lt _ (by decide))]
  omega

theorem Method.isCanonical_ofNumber (n : Nat) : (ofNumber n).IsCanonical := by
  have hn : n % 4096 < 4096 := Nat.mod_lt _ (by decide)
  have hword : (UInt16.ofNat (n % 4096)).toNat = n % 4096 := by
    rw [UInt16.toNat_ofNat']
    omega
  unfold ofNumber
  split
  · trivial
  · rename_i hne
    refine ⟨fun h => hne ?_, ?_⟩
    · rw [← hword, h]
      rfl
    · rw [UInt16.lt_iff_toNat_lt, hword]
      exact hn

end MediaSocket.Stun
