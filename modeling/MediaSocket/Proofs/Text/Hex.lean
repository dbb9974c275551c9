import MediaSocket.Proofs.Text.Utf8
import MediaSocket.Text.Hex
import Mathlib.Algebra.Group.Nat.Defs

/-! Hexadecimal text is read up to the first byte that is no digit. Texts are ordered as the bytes they
are written for, and the big-endian bytes of a number are written as its last digits. -/

namespace MediaSocket.Text.Hex

variable {text x y : Bytes} {cs : List Char} {b : UInt8} {m n k : Nat}

/-! ### Digits -/

def alphabet : List Char :=
  ['0', '1', '2', '3', '4', '5', '6', '7', '8', '9', 'a', 'b', 'c', 'd', 'e', 'f', 'A', 'B', 'C',
    'D', 'E', 'F']

/-- The byte is a digit, of either case. -/
def IsDigit (b : UInt8) : Prop := b ∈ Utf8.encode alphabet

def AllDigits (text : Bytes) : Prop := ∀ b ∈ text, IsDigit b

instance : DecidablePred IsDigit := fun b => inferInstanceAs (Decidable (b ∈ Utf8.encode alphabet))

-- Given by name: where all bytes can be listed, instance search would go through those instead.
instance : DecidablePred AllDigits := fun text => List.decidableBAll IsDigit text

theorem IsDigit.of_all {p : UInt8 → Prop} [DecidablePred p]
    (all : (Utf8.encode alphabet).all (fun b => decide (p b)) = true) (h : IsDigit b) : p b :=
  of_decide_eq_true (List.all_eq_true.1 all b h)

/-- The character of a byte, a capital made small. -/
def lowered (b : UInt8) : Char := (Char.ofNat b.toNat).toLower

theorem exists_value? (h : IsDigit b) : ∃ d < 16, value? b = some d ∧ d.digitChar = lowered b := by
  apply h.of_all
  decide

theorem value?_eq_none (h : ¬IsDigit b) : value? b = none := by
  have hsmall : ∀ n < 103, ¬IsDigit (UInt8.ofNat n) → value? (UInt8.ofNat n) = none := by decide
  obtain hb | hb := Nat.lt_or_ge b.toNat 103
  · rw [← UInt8.ofNat_toNat (x := b)] at h ⊢
    exact hsmall b.toNat hb h
  · simp only [value?]
    rw [if_neg (by omega), if_neg (by omega), if_neg (by omega)]

theorem IsDigit.ascii (h : IsDigit b) : b.toNat < 0x80 := by
  apply h.of_all
  decide

theorem allDigits_digitChar (hn : n < 16) : AllDigits (String.utf8EncodeChar n.digitChar) := by
  have hdigits : ∀ n < 16, AllDigits (String.utf8EncodeChar n.digitChar) := by decide
  exact hdigits n hn

/-- Digits are ASCII: a text of digits has one byte for each character. -/
theorem map_ofNat_of_allDigits (h : AllDigits (Utf8.encode cs)) :
    (Utf8.encode cs).map (fun b => Char.ofNat b.toNat) = cs :=
  Utf8.map_ofNat_encode fun b hb => (h b hb).ascii

theorem length_of_allDigits (h : AllDigits (Utf8.encode cs)) :
    (Utf8.encode cs).length = cs.length := by
  have hlength := congrArg List.length (map_ofNat_of_allDigits h)
  rwa [List.length_map] at hlength

theorem map_lowered_of_allDigits (h : AllDigits (Utf8.encode cs)) :
    (Utf8.encode cs).map lowered = cs.map Char.toLower := by
  have hchars := congrArg (List.map Char.toLower) (map_ofNat_of_allDigits h)
  rwa [List.map_map] at hchars

theorem digitChar_lt_iff (hm : m < 16) (hn : n < 16) : m.digitChar < n.digitChar ↔ m < n := by
  have hdigits : ∀ m < 16, ∀ n < 16, m.digitChar < n.digitChar ↔ m < n := by decide
  exact hdigits m hm n hn

theorem digitChar_inj (hm : m < 16) (hn : n < 16) : m.digitChar = n.digitChar ↔ m = n := by
  have hdigits : ∀ m < 16, ∀ n < 16, m.digitChar = n.digitChar ↔ m = n := by decide
  exact hdigits m hm n hn

/-! ### Reading -/

/-- `byte`, at `index`, is no digit, and what stands before it are digits. -/
structure FirstBad (text : Bytes) (byte : UInt8) (index : Nat) : Prop where
  at_index : text[index]? = some byte
  bad : ¬IsDigit byte
  before : AllDigits (text.take index)

theorem allDigits_or_firstBad (text : Bytes) :
    AllDigits text ∨ ∃ byte index, FirstBad text byte index := by
  induction text with
  | nil => exact .inl nofun
  | cons b rest ih =>
    by_cases hb : IsDigit b
    · obtain hrest | ⟨byte, index, hat, hbad, hbefore⟩ := ih
      · exact .inl (List.forall_mem_cons.2 ⟨hb, hrest⟩)
      · refine .inr ⟨byte, index + 1, by simpa using hat, hbad, ?_⟩
        rw [List.take_succ_cons]
        exact List.forall_mem_cons.2 ⟨hb, hbefore⟩
    · exact .inr ⟨b, 0, rfl, hb, nofun⟩

/-- The reader takes digits in pairs. Each pair is a byte, which is written with that pair again. -/
theorem exists_decodeFrom (i : Nat) :
    ∀ text : Bytes, text.length % 2 = 0 → AllDigits text →
      ∃ bytes, decodeFrom i text = .ok bytes ∧ encode bytes = text.map lowered
  | [], _, _ => ⟨[], rfl, rfl⟩
  | [_], heven, _ => by simp at heven
  | high :: low :: rest, heven, hdigits => by
    simp only [List.length_cons, AllDigits, List.forall_mem_cons] at heven hdigits
    obtain ⟨hhigh, hlow, hrest⟩ := hdigits
    obtain ⟨h, hh, hvalue, hchar⟩ := exists_value? hhigh
    obtain ⟨l, hl, lvalue, lchar⟩ := exists_value? hlow
    obtain ⟨bytes, hread, htext⟩ := exists_decodeFrom (i + 2) rest (by omega) hrest
    have hbyte : (UInt8.ofNat (h * 16 + l)).toNat = h * 16 + l := by
      rw [UInt8.toNat_ofNat']
      omega
    refine ⟨UInt8.ofNat (h * 16 + l) :: bytes, ?_, ?_⟩
    · rw [decodeFrom, hvalue, lvalue, hread]
      rfl
    · have hhighDigit : (h * 16 + l) / 16 = h := by omega
      have hlowDigit : (h * 16 + l) % 16 = l := by omega
      rw [encode, List.flatMap_cons, ← encode, htext, digits, hbyte, hhighDigit, hlowDigit, hchar,
        lchar]
      rfl

/-- The reader stops in the pair that holds the first byte which is no digit. -/
theorem decodeFrom_of_firstBad (i : Nat) {byte : UInt8} :
    ∀ (text : Bytes) (index : Nat), text.length % 2 = 0 → FirstBad text byte index →
      decodeFrom i text = .error (.badDigit byte (i + index))
  | [], _, _, h => by simpa using h.at_index
  | [_], _, heven, _ => by simp at heven
  | high :: low :: rest, 0, _, h => by
    obtain rfl : high = byte := by simpa using h.at_index
    rw [decodeFrom, value?_eq_none h.bad]
    rfl
  | high :: low :: rest, 1, _, h => by
    obtain rfl : low = byte := by simpa using h.at_index
    obtain ⟨d, -, hvalue, -⟩ := exists_value? (h.before high (by simp))
    rw [decodeFrom, hvalue, value?_eq_none h.bad]
  | high :: low :: rest, index + 2, heven, h => by
    simp only [List.length_cons] at heven
    obtain ⟨d, -, hvalue, -⟩ := exists_value? (h.before high (by simp))
    obtain ⟨e, -, lvalue, -⟩ := exists_value? (h.before low (by simp))
    have hrest : FirstBad rest byte index := by
      refine ⟨by simpa using h.at_index, h.bad, fun b hb => h.before b ?_⟩
      simp [List.take_succ_cons, hb]
    have hread := decodeFrom_of_firstBad (i + 2) rest index (by omega) hrest
    rw [Nat.add_assoc, Nat.add_comm 2] at hread
    rw [decodeFrom, hvalue, lvalue, hread]
    rfl

theorem decode_of_odd (h : text.length % 2 = 1) : decode text = .error .oddLength :=
  if_pos h

theorem decode_of_even (h : text.length % 2 = 0) : decode text = decodeFrom 0 text :=
  if_neg (by omega)

/-! ### Writing -/

theorem encode_cons (b : UInt8) (x : Bytes) :
    encode (b :: x) = (b.toNat / 16).digitChar :: (b.toNat % 16).digitChar :: encode x :=
  rfl

theorem encode_append (x y : Bytes) : encode (x ++ y) = encode x ++ encode y :=
  List.flatMap_append

theorem length_encode (x : Bytes) : (encode x).length = 2 * x.length := by
  induction x with
  | nil => rfl
  | cons b x ih =>
    simp only [encode_cons, List.length_cons, ih]
    omega

theorem encode_replicate_zero (k : Nat) :
    encode (List.replicate k 0) = List.replicate (2 * k) '0' := by
  induction k with
  | zero => rfl
  | succ k ih =>
    rw [List.replicate_succ, encode_cons, ih]
    rfl

theorem exists_digitChar {c : Char} (h : c ∈ encode x) : ∃ n < 16, n.digitChar = c := by
  obtain ⟨b, -, hc⟩ := List.mem_flatMap.1 h
  have hb := b.toNat_lt
  simp only [digits, List.mem_cons, List.not_mem_nil, or_false] at hc
  obtain rfl | rfl := hc
  · exact ⟨b.toNat / 16, by omega, rfl⟩
  · exact ⟨b.toNat % 16, by omega, rfl⟩

theorem allDigits_encode (x : Bytes) : AllDigits (Utf8.encode (encode x)) := by
  intro b h
  obtain ⟨c, hc, hb⟩ := List.mem_flatMap.1 h
  obtain ⟨n, hn, rfl⟩ := exists_digitChar hc
  exact allDigits_digitChar hn b hb

theorem map_toLower_encode (x : Bytes) : (encode x).map Char.toLower = encode x := by
  have hdigits : ∀ n < 16, n.digitChar.toLower = n.digitChar := by decide
  refine List.map_congr_left (fun c hc => ?_) |>.trans (List.map_id _)
  obtain ⟨n, hn, rfl⟩ := exists_digitChar hc
  exact hdigits n hn

/-- The first byte that differs decides, and in it the first digit that differs. -/
theorem encode_lt_encode_iff : encode x < encode y ↔ x < y := by
  induction x generalizing y with
  | nil =>
    cases y with
    | nil => exact ⟨nofun, nofun⟩
    | cons b y => exact ⟨fun _ => List.nil_lt_cons .., fun _ => List.nil_lt_cons ..⟩
  | cons a x ih =>
    cases y with
    | nil => exact ⟨nofun, nofun⟩
    | cons b y =>
      have ha := a.toNat_lt
      have hb := b.toNat_lt
      rw [encode_cons, encode_cons, List.cons_lt_cons_iff, List.cons_lt_cons_iff,
        List.cons_lt_cons_iff, ih, digitChar_lt_iff (by omega) (by omega),
        digitChar_lt_iff (by omega) (by omega), digitChar_inj (by omega) (by omega),
        digitChar_inj (by omega) (by omega), UInt8.lt_iff_toNat_lt, ← UInt8.toNat_inj]
      -- What follows counts only where both digits are the same.
      by_cases hrest : x < y
      · simp only [hrest, and_true]
        omega
      · simp only [hrest, and_false, or_false]
        omega

theorem encode_injective : Function.Injective encode := by
  intro x y h
  have hxy : ¬x < y := fun hlt => List.lt_irrefl _ (h ▸ encode_lt_encode_iff.2 hlt)
  have hyx : ¬y < x := fun hlt => List.lt_irrefl _ (h ▸ encode_lt_encode_iff.2 hlt)
  exact List.le_antisymm (List.not_lt.1 hyx) (List.not_lt.1 hxy)

/-! ### Numbers -/

/-- The last `width` digits of a number. -/
def lastDigits : Nat → Nat → List Char
  | 0, _ => []
  | width + 1, n => lastDigits width (n / 16) ++ [(n % 16).digitChar]

theorem lastDigits_add (k m n : Nat) :
    lastDigits (k + m) n = lastDigits k (n / 16 ^ m) ++ lastDigits m n := by
  induction m generalizing n with
  | zero => simp [lastDigits]
  | succ m ih =>
    rw [← Nat.add_assoc, lastDigits, ih, Nat.div_div_eq_div_mul, ← Nat.pow_succ', lastDigits,
      List.append_assoc]

theorem lastDigits_mod (k n : Nat) : lastDigits k (n % 16 ^ k) = lastDigits k n := by
  induction k generalizing n with
  | zero => rfl
  | succ k ih =>
    rw [lastDigits, Nat.pow_succ', Nat.mod_mul_right_div_self, ih, Nat.mod_mul_right_mod, lastDigits]

/-- A number that is not too large is its last digits, with zeros before them. -/
theorem lastDigits_succ_eq_leftpad (hn : n < 16 ^ (k + 1)) :
    lastDigits (k + 1) n = (Nat.toDigits 16 n).leftpad (k + 1) '0' := by
  induction k generalizing n with
  | zero =>
    have hsmall : n < 16 := by simpa using hn
    rw [lastDigits, Nat.mod_eq_of_lt hsmall, Nat.toDigits_of_lt_base hsmall]
    rfl
  | succ k ih =>
    have hquot : n / 16 < 16 ^ (k + 1) := by
      rw [Nat.pow_succ] at hn
      omega
    rw [lastDigits, ih hquot, Nat.toDigits_eq_if (n := n) (by omega)]
    split
    · rename_i hsmall
      rw [Nat.div_eq_of_lt hsmall, Nat.mod_eq_of_lt hsmall, Nat.toDigits_zero]
      simp [List.leftpad, List.replicate_succ']
    · simp [List.leftpad]

theorem encode_ofNat_cons (n : Nat) (x : Bytes) :
    encode (UInt8.ofNat n :: x) = lastDigits 2 n ++ encode x := by
  have hhigh : n % 256 / 16 = n / 16 % 16 := by omega
  have hlow : n % 256 % 16 = n % 16 := by omega
  rw [encode_cons, UInt8.toNat_ofNat', hhigh, hlow]
  rfl

theorem encode_ofUInt32 (w : UInt32) : encode (Bytes.ofUInt32 w) = lastDigits 8 w.toNat := by
  rw [Bytes.ofUInt32, encode_ofNat_cons, encode_ofNat_cons, encode_ofNat_cons, encode_ofNat_cons,
    lastDigits_add 2 6, lastDigits_add 2 4, lastDigits_add 2 2]
  rfl

theorem encode_ofCount (n : Nat) : encode (Bytes.ofCount n) = lastDigits 16 n := by
  rw [Bytes.ofCount, encode_append, encode_ofUInt32, encode_ofUInt32, UInt32.toNat_ofNat',
    UInt32.toNat_ofNat']
  calc lastDigits 8 (n / 16 ^ 8 % 16 ^ 8) ++ lastDigits 8 (n % 16 ^ 8)
      = lastDigits 8 (n / 16 ^ 8) ++ lastDigits 8 n := by rw [lastDigits_mod, lastDigits_mod]
    _ = lastDigits 16 n := (lastDigits_add 8 8 n).symm

end MediaSocket.Text.Hex
