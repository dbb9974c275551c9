import MediaSocket.Checksum
import Mathlib.Data.Nat.Bitwise
import Mathlib.Logic.Function.Iterate

/-! CRC-32 tells apart byte strings that differ within four bytes in a row. The division is linear in
exclusive or, and a remainder without its highest bits comes from one without its lowest, so that
remainders that become equal within four bytes were close to each other before. -/

namespace MediaSocket.Crc32

/-! ### Single bits -/

theorem and_one_eq_one_iff (r : UInt32) : r &&& 1 = 1 ↔ r.toNat % 2 = 1 := by
  rw [← UInt32.toNat_inj, UInt32.toNat_and]
  show r.toNat &&& 1 = 1 ↔ _
  rw [Nat.and_one_is_mod]

theorem step_of_odd {r : UInt32} (h : r.toNat % 2 = 1) : step r = (r >>> 1) ^^^ polynomial :=
  if_pos ((and_one_eq_one_iff r).2 h)

theorem step_of_even {r : UInt32} (h : r.toNat % 2 = 0) : step r = r >>> 1 := by
  refine if_neg fun hone => ?_
  rw [and_one_eq_one_iff] at hone
  omega

theorem xor_xor_cancel (a b c : UInt32) : (a ^^^ c) ^^^ (b ^^^ c) = a ^^^ b := by
  rw [UInt32.xor_comm b c, UInt32.xor_assoc, ← UInt32.xor_assoc c c b, UInt32.xor_self,
    UInt32.zero_xor]

theorem step_xor (r s : UInt32) : step (r ^^^ s) = step r ^^^ step s := by
  have hlow : (r ^^^ s).toNat % 2 = (r.toNat + s.toNat) % 2 := by
    rw [UInt32.toNat_xor, Nat.xor_mod_two_eq]
  rcases Nat.mod_two_eq_zero_or_one r.toNat with hr | hr <;>
    rcases Nat.mod_two_eq_zero_or_one s.toNat with hs | hs
  · rw [step_of_even hr, step_of_even hs, step_of_even (by omega), UInt32.shiftRight_xor]
  · rw [step_of_even hr, step_of_odd hs, step_of_odd (by omega), UInt32.shiftRight_xor,
      UInt32.xor_assoc]
  · rw [step_of_odd hr, step_of_even hs, step_of_odd (by omega), UInt32.shiftRight_xor,
      UInt32.xor_assoc, UInt32.xor_assoc, UInt32.xor_comm (s >>> 1)]
  · rw [step_of_odd hr, step_of_odd hs, step_of_even (by omega), UInt32.shiftRight_xor,
      xor_xor_cancel]

/-- The polynomial has the highest bit, so that a remainder that has lost it was even. -/
theorem toNat_eq_of_step_lt {r : UInt32} (h : (step r).toNat < 2 ^ 31) :
    r.toNat = 2 * (step r).toNat := by
  have hshift : (r >>> 1).toNat = r.toNat / 2 := by
    rw [UInt32.toNat_shiftRight]
    exact Nat.shiftRight_succ r.toNat 0
  have hr := r.toNat_lt
  rcases Nat.mod_two_eq_zero_or_one r.toNat with heven | hodd
  · rw [step_of_even heven, hshift]
    omega
  · rw [step_of_odd hodd] at h
    have hhalf : (r >>> 1).toNat < 2 ^ 31 := by omega
    have hlt := Nat.xor_lt_two_pow hhalf h
    rw [← UInt32.toNat_xor, ← UInt32.xor_assoc, UInt32.xor_self, UInt32.zero_xor] at hlt
    exact absurd hlt (by decide)

theorem toNat_eq_of_iterate_lt {n : Nat} (hn : n ≤ 32) {r : UInt32}
    (h : (step^[n] r).toNat < 2 ^ (32 - n)) : r.toNat = 2 ^ n * (step^[n] r).toNat := by
  induction n generalizing r with
  | zero => simp
  | succ n ih =>
    rw [Function.iterate_succ_apply] at h ⊢
    have hrest : (step^[n] (step r)).toNat < 2 ^ (32 - n) :=
      Nat.lt_of_lt_of_le h (Nat.pow_le_pow_right (by decide) (by omega))
    have hstep := ih (by omega) hrest
    have hlt : (step r).toNat < 2 ^ 31 := by
      calc (step r).toNat = 2 ^ n * (step^[n] (step r)).toNat := hstep
        _ < 2 ^ n * 2 ^ (32 - (n + 1)) := Nat.mul_lt_mul_of_pos_left h (Nat.two_pow_pos n)
        _ = 2 ^ 31 := by rw [← Nat.pow_add]; congr 1; omega
    rw [toNat_eq_of_step_lt hlt, hstep, Nat.pow_succ', Nat.mul_assoc]

/-! ### Bytes -/

theorem step8_xor (r s : UInt32) : step8 (r ^^^ s) = step8 r ^^^ step8 s := by
  simp only [step8, step_xor]

theorem toNat_eq_of_step8_lt {r : UInt32} (h : (step8 r).toNat < 2 ^ 24) :
    r.toNat = 256 * (step8 r).toNat :=
  toNat_eq_of_iterate_lt (n := 8) (by decide) h

theorem feed_xor_feed (r s : UInt32) (b c : UInt8) :
    feed r b ^^^ feed s c =
      step8 ((r ^^^ s) ^^^ (UInt32.ofNat b.toNat ^^^ UInt32.ofNat c.toNat)) := by
  rw [feed, feed, ← step8_xor]
  congr 1
  ac_rfl

theorem toNat_byte_xor_byte (b c : UInt8) :
    (UInt32.ofNat b.toNat ^^^ UInt32.ofNat c.toNat).toNat = (b ^^^ c).toNat := by
  have hbyte (b : UInt8) : (UInt32.ofNat b.toNat).toNat = b.toNat := by
    have := b.toNat_lt
    rw [UInt32.toNat_ofNat']
    omega
  rw [UInt32.toNat_xor, hbyte, hbyte, UInt8.toNat_xor]

/-- Remainders that are close after a byte were close before it. -/
theorem xor_lt_of_feed {r s : UInt32} {b c : UInt8} {k : Nat} (hk : k ≤ 3)
    (h : (feed r b ^^^ feed s c).toNat < 2 ^ (8 * k)) : (r ^^^ s).toNat < 2 ^ (8 * (k + 1)) := by
  rw [feed_xor_feed] at h
  have hbytes : (UInt32.ofNat b.toNat ^^^ UInt32.ofNat c.toNat).toNat < 2 ^ (8 * (k + 1)) := by
    rw [toNat_byte_xor_byte]
    have hlt := (b ^^^ c).toNat_lt
    exact Nat.lt_of_lt_of_le hlt (Nat.pow_le_pow_right (by decide) (by omega))
  have hsum : ((r ^^^ s) ^^^ (UInt32.ofNat b.toNat ^^^ UInt32.ofNat c.toNat)).toNat <
      2 ^ (8 * (k + 1)) := by
    rw [toNat_eq_of_step8_lt (Nat.lt_of_lt_of_le h (Nat.pow_le_pow_right (by decide) (by omega))),
      Nat.mul_succ, Nat.pow_add]
    omega
  have hlt := Nat.xor_lt_two_pow hsum hbytes
  rwa [← UInt32.toNat_xor, UInt32.xor_assoc, UInt32.xor_self, UInt32.xor_zero] at hlt

/-- Remainders that become equal within four bytes were close before, the closer the fewer bytes. -/
theorem xor_lt_of_foldl_feed_eq {xs ys : Bytes} (hlength : xs.length = ys.length)
    (hfour : xs.length ≤ 4) {r s : UInt32} (h : xs.foldl feed r = ys.foldl feed s) :
    (r ^^^ s).toNat < 2 ^ (8 * xs.length) := by
  induction xs generalizing ys r s with
  | nil =>
    rw [List.eq_nil_of_length_eq_zero hlength.symm] at h
    rw [show r = s from h, UInt32.xor_self]
    decide
  | cons x xs ih =>
    cases ys with
    | nil => simp at hlength
    | cons y ys =>
      simp only [List.length_cons, Nat.add_right_cancel_iff] at hlength hfour
      exact xor_lt_of_feed (by omega) (ih hlength (by omega) h)

/-- Four bytes or fewer that lead from one remainder to the same one are the same. -/
theorem eq_of_foldl_feed_eq {xs ys : Bytes} (hlength : xs.length = ys.length)
    (hfour : xs.length ≤ 4) {r : UInt32} (h : xs.foldl feed r = ys.foldl feed r) : xs = ys := by
  induction xs generalizing ys r with
  | nil => exact (List.eq_nil_of_length_eq_zero hlength.symm).symm
  | cons x xs ih =>
    cases ys with
    | nil => simp at hlength
    | cons y ys =>
      simp only [List.length_cons, Nat.add_right_cancel_iff] at hlength hfour
      have hclose := xor_lt_of_foldl_feed_eq hlength (by omega) h
      -- three bytes are left at most, so that the difference of `x` and `y` must have been a multiple
      -- of 256 before it was fed
      have hxy : x = y := by
        rw [feed_xor_feed, UInt32.xor_self, UInt32.zero_xor] at hclose
        have hmul := toNat_eq_of_step8_lt
          (Nat.lt_of_lt_of_le hclose (Nat.pow_le_pow_right (by decide) (by omega)))
        rw [toNat_byte_xor_byte] at hmul
        have hlt := (x ^^^ y).toNat_lt
        have hzero : (x ^^^ y).toNat = 0 := by omega
        exact UInt8.xor_eq_zero_iff.1 (UInt8.toNat_inj.1 hzero)
      subst hxy
      rw [ih hlength (by omega) h]

/-- What is fed afterwards does not make different remainders equal. -/
theorem foldl_feed_injective (xs : Bytes) {r s : UInt32} (h : xs.foldl feed r = xs.foldl feed s) :
    r = s := by
  induction xs generalizing r s with
  | nil => exact h
  | cons x xs ih =>
    have hfeed := feed_xor_feed r s x x
    rw [ih h, UInt32.xor_self, UInt32.xor_self, UInt32.xor_zero] at hfeed
    have hzero := toNat_eq_of_step8_lt (r := r ^^^ s) (by rw [← hfeed]; decide)
    rw [← hfeed] at hzero
    exact UInt32.xor_eq_zero_iff.1 (UInt32.toNat_inj.1 hzero)

theorem eq_of_checksum_eq {front xs ys back : Bytes} (hlength : xs.length = ys.length)
    (hfour : xs.length ≤ 4)
    (h : checksum (front ++ xs ++ back) = checksum (front ++ ys ++ back)) : xs = ys := by
  unfold checksum at h
  rw [UInt32.xor_left_inj, List.foldl_append, List.foldl_append, List.foldl_append,
    List.foldl_append] at h
  exact eq_of_foldl_feed_eq hlength hfour (foldl_feed_injective back h)

/-- No two byte strings of one length that differ within four bytes in a row have the same checksum. -/
theorem checksum_injective_on_window {xs ys : Bytes} {i : Nat} (hlength : xs.length = ys.length)
    (hwindow : ∀ j, xs[j]? ≠ ys[j]? → i ≤ j ∧ j < i + 4) (h : checksum xs = checksum ys) :
    xs = ys := by
  have hsame : ∀ j, ¬(i ≤ j ∧ j < i + 4) → xs[j]? = ys[j]? := fun j hj =>
    Decidable.not_not.1 fun hne => hj (hwindow j hne)
  have hfront : xs.take i = ys.take i := by
    apply List.ext_getElem?
    intro j
    rw [List.getElem?_take, List.getElem?_take]
    split
    · exact hsame j (by omega)
    · rfl
  have hback : (xs.drop i).drop 4 = (ys.drop i).drop 4 := by
    apply List.ext_getElem?
    intro j
    rw [List.drop_drop, List.drop_drop, List.getElem?_drop, List.getElem?_drop]
    exact hsame _ (by omega)
  have hsplit (zs : Bytes) : zs = zs.take i ++ (zs.drop i).take 4 ++ (zs.drop i).drop 4 := by
    rw [List.append_assoc, List.take_append_drop, List.take_append_drop]
  rw [hsplit xs, hsplit ys, hfront, hback] at h
  have hmiddle := eq_of_checksum_eq (by simp [hlength]) (List.length_take_le 4 _) h
  rw [hsplit xs, hsplit ys, hfront, hback, hmiddle]

end MediaSocket.Crc32
