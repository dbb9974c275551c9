import MediaSocket.Proofs.Association.Derivation
import MediaSocket.Proofs.Association.Views
import MediaSocket.Proofs.Text.Hex

/-! The text form of ids: which texts are read, that the text of an id is read as that id, and that
ids are ordered as their texts are. -/

namespace MediaSocket.AssociationId

open Text.Hex (AllDigits FirstBad)

variable {s : String} {x y : AssociationId}

theorem toList_toLower (s : String) : s.toLower.toList = s.toList.map Char.toLower :=
  String.toList_map

/-! ### Writing -/

theorem toList_text (x : AssociationId) : x.text.toList = Text.Hex.encode x.bytes.toList :=
  String.toList_ofList

theorem length_text (x : AssociationId) : x.text.length = 32 := by
  rw [← String.length_toList, toList_text, Text.Hex.length_encode, Vector.length_toList]

theorem allDigits_text (x : AssociationId) : AllDigits (Text.Utf8.encode x.text.toList) := by
  rw [toList_text]
  exact Text.Hex.allDigits_encode x.bytes.toList

theorem text_injective : Function.Injective text := by
  intro x y h
  have hbytes := congrArg String.toList h
  rw [toList_text, toList_text] at hbytes
  exact congrArg AssociationId.mk (Vector.toList_inj.1 (Text.Hex.encode_injective hbytes))

theorem text_lt_text_iff : x.text < y.text ↔ x < y := by
  show x.text.toList < y.text.toList ↔ x.bytes.toList < y.bytes.toList
  rw [toList_text, toList_text, Text.Hex.encode_lt_encode_iff]

/-- The bytes that are not given are zero, so that a short text is filled up on the right. -/
theorem toList_text_ofBytes {bytes : Bytes} (h : bytes.length ≤ 16) :
    (ofBytes bytes).text.toList = (Text.Hex.encode bytes).rightpad 32 '0' := by
  have hfill : 2 * (16 - bytes.length) = 32 - 2 * bytes.length := by omega
  rw [toList_text, toList_ofBytes h, Text.Hex.encode_append, Text.Hex.encode_replicate_zero, hfill,
    List.rightpad, Text.Hex.length_encode]

theorem toList_text_ofNat {n : Nat} (h : n < 2 ^ 128) :
    (ofNat n).text.toList = (Nat.toDigits 16 n).leftpad 32 '0' := by
  have hbytes : (ofNat n).bytes.toList = Bytes.ofCount (n / 16 ^ 16) ++ Bytes.ofCount n :=
    Bytes.toList_ofFn_getD_of_length rfl
  rw [toList_text, hbytes, Text.Hex.encode_append, Text.Hex.encode_ofCount, Text.Hex.encode_ofCount,
    ← Text.Hex.lastDigits_add 16 16]
  exact Text.Hex.lastDigits_succ_eq_leftpad h

/-! ### Reading -/

theorem ofText_of_odd (h : s.utf8ByteSize % 2 = 1) : ofText s = .error (.hex .oddLength) := by
  rw [← Text.Utf8.length_encode_toList] at h
  rw [ofText, Text.Hex.decode_of_odd h]

theorem ofText_of_firstBad {byte : UInt8} {index : Nat} (heven : s.utf8ByteSize % 2 = 0)
    (h : FirstBad (Text.Utf8.encode s.toList) byte index) :
    ofText s = .error (.hex (.badDigit byte index)) := by
  rw [← Text.Utf8.length_encode_toList] at heven
  rw [ofText, Text.Hex.decode_of_even heven, Text.Hex.decodeFrom_of_firstBad 0 _ _ heven h,
    Nat.zero_add]

/-- Digits are read as bytes, two for each, which are written in small letters. -/
theorem exists_decode (heven : s.utf8ByteSize % 2 = 0)
    (hdigits : AllDigits (Text.Utf8.encode s.toList)) :
    ∃ bytes, Text.Hex.decode (Text.Utf8.encode s.toList) = .ok bytes ∧
      Text.Hex.encode bytes = s.toLower.toList ∧ 2 * bytes.length = s.length := by
  rw [← Text.Utf8.length_encode_toList] at heven
  obtain ⟨bytes, hread, htext⟩ := Text.Hex.exists_decodeFrom 0 _ heven hdigits
  rw [Text.Hex.map_lowered_of_allDigits hdigits] at htext
  refine ⟨bytes, ?_, ?_, ?_⟩
  · rw [Text.Hex.decode_of_even heven, hread]
  · rw [htext, toList_toLower]
  · rw [← Text.Hex.length_encode, htext, List.length_map, String.length_toList]

theorem ofText_of_tooLong (heven : s.utf8ByteSize % 2 = 0)
    (hdigits : AllDigits (Text.Utf8.encode s.toList)) (hlong : 32 < s.length) :
    ofText s = .error .tooLong := by
  obtain ⟨bytes, hread, -, hlength⟩ := exists_decode heven hdigits
  rw [ofText, hread]
  exact if_neg (by omega)

theorem exists_ofText (heven : s.utf8ByteSize % 2 = 0)
    (hdigits : AllDigits (Text.Utf8.encode s.toList)) (hshort : s.length ≤ 32) :
    ∃ id, ofText s = .ok id ∧ id.text.toList = s.toLower.toList.rightpad 32 '0' := by
  obtain ⟨bytes, hread, htext, hlength⟩ := exists_decode heven hdigits
  have hfits : bytes.length ≤ 16 := by omega
  refine ⟨ofBytes bytes, ?_, ?_⟩
  · rw [ofText, hread]
    exact if_pos hfits
  · rw [toList_text_ofBytes hfits, htext]

/-- What a text is read as: the first rule that applies. -/
inductive Reads (s : String) : Except ParseError AssociationId → Prop
  | odd (h : s.utf8ByteSize % 2 = 1) : Reads s (.error (.hex .oddLength))
  | badDigit {byte : UInt8} {index : Nat} (heven : s.utf8ByteSize % 2 = 0)
      (h : FirstBad (Text.Utf8.encode s.toList) byte index) :
      Reads s (.error (.hex (.badDigit byte index)))
  | tooLong (heven : s.utf8ByteSize % 2 = 0)
      (hdigits : AllDigits (Text.Utf8.encode s.toList)) (h : 32 < s.length) :
      Reads s (.error .tooLong)
  | filled {id : AssociationId} (heven : s.utf8ByteSize % 2 = 0)
      (hdigits : AllDigits (Text.Utf8.encode s.toList)) (h : s.length ≤ 32)
      (htext : id.text.toList = s.toLower.toList.rightpad 32 '0') : Reads s (.ok id)

theorem reads_ofText (s : String) : Reads s (ofText s) := by
  obtain heven | hodd := Nat.mod_two_eq_zero_or_one s.utf8ByteSize
  · obtain hdigits | ⟨byte, index, hbad⟩ :=
      Text.Hex.allDigits_or_firstBad (Text.Utf8.encode s.toList)
    · obtain hlong | hshort := Nat.lt_or_ge 32 s.length
      · rw [ofText_of_tooLong heven hdigits hlong]
        exact .tooLong heven hdigits hlong
      · obtain ⟨id, hread, htext⟩ := exists_ofText heven hdigits hshort
        rw [hread]
        exact .filled heven hdigits hshort htext
    · rw [ofText_of_firstBad heven hbad]
      exact .badDigit heven hbad
  · rw [ofText_of_odd hodd]
    exact .odd hodd

theorem ofText_eq_iff {result : Except ParseError AssociationId} :
    ofText s = result ↔ Reads s result := by
  constructor
  · rintro rfl
    exact reads_ofText s
  · intro h
    cases h with
    | odd h => exact ofText_of_odd h
    | badDigit heven h => exact ofText_of_firstBad heven h
    | tooLong heven hdigits h => exact ofText_of_tooLong heven hdigits h
    | filled heven hdigits h htext =>
      obtain ⟨id, hread, htext'⟩ := exists_ofText heven hdigits h
      rw [hread, text_injective (String.toList_inj.1 (htext'.trans htext.symm))]

/-- The text of an id has its full length and small letters already, so that it is read as that id. -/
theorem ofText_text (x : AssociationId) : ofText x.text = .ok x := by
  have hsize : x.text.utf8ByteSize = 32 := by
    rw [← Text.Utf8.length_encode_toList, Text.Hex.length_of_allDigits x.allDigits_text,
      String.length_toList, length_text]
  have hlower : x.text.toLower.toList = x.text.toList := by
    rw [toList_toLower, toList_text, Text.Hex.map_toLower_encode]
  refine ofText_eq_iff.2 (.filled (by omega) x.allDigits_text (Nat.le_of_eq (length_text x)) ?_)
  rw [hlower, List.rightpad, String.length_toList, length_text, Nat.sub_self, List.replicate_zero,
    List.append_nil]

/-- A snapshot is in the order of the texts, as it is in the order of the ids. -/
theorem pairwise_texts (r : Registry) : (r.snapshot.map fun e => e.1.text).Pairwise (· < ·) := by
  have hids := List.pairwise_map.1 r.pairwise_snapshot
  exact List.pairwise_map.2 (hids.imp text_lt_text_iff.2)

/-- A text is read by the first rule that applies: an odd number of bytes is an error, then a byte that
is no digit, then more than 32 digits, and otherwise the digits are the front of the id's text, in small
letters and with zeros behind them. The text of an id is read as that id, an id made from a number has
the 32 last digits of it, and ids are ordered as their texts are, so that a snapshot is in the order of
the texts. -/
theorem text_faithful (s : String) (x y : AssociationId) (n : Nat) (r : Registry) :
    (∀ result, ofText s = result ↔ Reads s result) ∧
    ofText x.text = .ok x ∧
    (n < 2 ^ 128 → (ofNat n).text.toList = (Nat.toDigits 16 n).leftpad 32 '0') ∧
    (x < y ↔ x.text < y.text) ∧
    (r.snapshot.map fun e => e.1.text).Pairwise (· < ·) :=
  ⟨fun _ => ofText_eq_iff, ofText_text x, toList_text_ofNat, text_lt_text_iff.symm, pairwise_texts r⟩

theorem text_faithful_each_rule :
    ofText "aB3" = .error (.hex .oddLength) ∧
    ofText "0é0" = .error (.hex (.badDigit 0xC3 1)) ∧
    ofText "aBaBaBaBaBaBaBaBaBaBaBaBaBaBaBaBaB" = .error .tooLong ∧
    ofText "aB" = .ok (ofBytes [0xAB]) ∧
    (ofNat 0xBEEF).text.toList = List.replicate 28 '0' ++ ['b', 'e', 'e', 'f'] := by
  have hread (s : String) := (text_faithful s (ofNat 0) (ofNat 0) 0 (.empty .wide)).1
  refine ⟨?_, ?_, ?_, ?_, ?_⟩
  · exact (hread _ _).2 (.odd (by decide))
  · exact (hread _ _).2 (.badDigit (by decide) ⟨by decide, by decide, by decide⟩)
  · exact (hread _ _).2 (.tooLong (by decide) (by decide) (by decide))
  · refine (hread _ _).2 (.filled (by decide) (by decide) (by decide) ?_)
    rw [toList_toLower]
    decide
  · exact (text_faithful "" (ofNat 0) (ofNat 0) 0xBEEF (.empty .wide)).2.2.1 (by decide)

end MediaSocket.AssociationId
