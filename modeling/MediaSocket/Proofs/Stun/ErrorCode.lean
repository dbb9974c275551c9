import MediaSocket.Proofs.Stun.Attribute
import MediaSocket.Proofs.Stun.Signature

/-! ERROR-CODE on its way: what is read from one that a message brought is what was put into it, but for
the codes from 800 on. -/

namespace MediaSocket.Stun

variable {m : Message} {a : Attribute} {key raw : Bytes} {i : Nat}

/-- An attribute that goes by its name arrives as it was sent, at the same place. -/
theorem Message.getElem?_of_encode (h : m.encode = .ok raw) (named : a.type.IsCanonical)
    (ha : m.attributes[i]? = some a) :
    ∃ got, decode raw = .ok got ∧ got.attributes[i]? = some a := by
  obtain ⟨fits, small, rfl⟩ := encode_eq_ok_iff.1 h
  refine ⟨m.canonical, decode_written fits small, ?_⟩
  show (m.attributes.map Attribute.canonical)[i]? = some a
  rw [List.getElem?_map, ha, Option.map_some, a.canonical_eq_self_iff.2 named]

/-- What signing adds stands behind what it keeps. -/
theorem Message.getElem?_of_encodeSigned (h : m.encodeSigned key = .ok raw)
    (named : a.type.IsCanonical) (ha : m.unsigned[i]? = some a) :
    ∃ got, decode raw = .ok got ∧ got.attributes[i]? = some a := by
  obtain ⟨fits, small, rfl⟩ := encodeSigned_eq_ok_iff.1 h
  have hdecode := decode_signed fits small key
  rw [canonical_signed] at hdecode
  have hkept : (m.unsigned.map Attribute.canonical)[i]? = some a := by
    rw [List.getElem?_map, ha, Option.map_some, a.canonical_eq_self_iff.2 named]
  have hi : i < (m.unsigned.map Attribute.canonical).length :=
    (List.getElem?_eq_some_iff.1 hkept).1
  refine ⟨_, hdecode, ?_⟩
  show (_ ++ _ : List Attribute)[i]? = some a
  rw [List.getElem?_append_left hi, hkept]

namespace Attribute

theorem isCanonical_errorCode (code : UInt16) (reason : String) :
    (errorCode code reason).type.IsCanonical := trivial

theorem ofNat_mod_eq (code : UInt16) : UInt16.ofNat (code.toNat % 800) = code % 800 := by
  apply UInt16.toNat_inj.1
  rw [UInt16.toNat_ofNat', UInt16.toNat_mod]
  show code.toNat % 800 % 65536 = code.toNat % 800
  omega

theorem mod_eq_self_iff (code : UInt16) : code % 800 = code ↔ code < 800 := by
  rw [← UInt16.toNat_inj, UInt16.toNat_mod, UInt16.lt_iff_toNat_lt]
  show code.toNat % 800 = code.toNat ↔ code.toNat < 800
  omega

/-- From an ERROR-CODE the code is read back modulo 800 and the reason as it is, also after the way
through a message, plain or signed. -/
theorem errorCode_travels (code : UInt16) (reason : String) :
    (errorCode code reason).readErrorCode = .ok (code % 800, reason) ∧
    ((errorCode code reason).readErrorCode = .ok (code, reason) ↔ code < 800) ∧
    (∀ (m : Message) (raw : Bytes) (i : Nat), m.encode = .ok raw →
      m.attributes[i]? = some (errorCode code reason) →
      ∃ got a, Message.decode raw = .ok got ∧ got.attributes[i]? = some a ∧
        a.readErrorCode = .ok (code % 800, reason)) ∧
    ∀ (m : Message) (key raw : Bytes) (i : Nat), m.encodeSigned key = .ok raw →
      (m.attributes.filter fun a => a.type ≠ .messageIntegrity ∧ a.type ≠ .fingerprint)[i]? =
        some (errorCode code reason) →
      ∃ got a, Message.decode raw = .ok got ∧ got.attributes[i]? = some a ∧
        a.readErrorCode = .ok (code % 800, reason) := by
  have hread : (errorCode code reason).readErrorCode = .ok (code % 800, reason) := by
    rw [readErrorCode_errorCode, ofNat_mod_eq]
  have hnamed := isCanonical_errorCode code reason
  refine ⟨hread, ?_, ?_, ?_⟩
  · rw [hread, Except.ok.injEq, Prod.mk.injEq, mod_eq_self_iff]
    exact and_iff_left rfl
  · intro m raw i h ha
    obtain ⟨got, hgot, hplace⟩ := Message.getElem?_of_encode h hnamed ha
    exact ⟨got, _, hgot, hplace, hread⟩
  · intro m key raw i h ha
    rw [← m.unsigned_eq] at ha
    obtain ⟨got, hgot, hplace⟩ := Message.getElem?_of_encodeSigned h hnamed ha
    exact ⟨got, _, hgot, hplace, hread⟩

/-- A code above 800, and a reason whose characters take one to four bytes and leave two for padding. -/
theorem errorCode_travels_four_widths :
    let m : Message := ⟨.error, .binding, Vector.replicate 12 0,
      [⟨.messageIntegrity, []⟩, .errorCode 1437 "aé€🦀"]⟩
    (∃ raw got a, m.encode = .ok raw ∧ Message.decode raw = .ok got ∧
      got.attributes[1]? = some a ∧ a.readErrorCode = .ok (637, "aé€🦀")) ∧
    ∃ raw got a, m.encodeSigned [1] = .ok raw ∧ Message.decode raw = .ok got ∧
      got.attributes[0]? = some a ∧ a.readErrorCode = .ok (637, "aé€🦀") := by
  intro m
  obtain ⟨-, -, hplain, hsigned⟩ := errorCode_travels 1437 "aé€🦀"
  constructor
  · have h : m.encode = .ok m.written := Message.encode_fit (by decide) (by decide)
    obtain ⟨got, a, hgot⟩ := hplain m _ 1 h rfl
    exact ⟨_, got, a, h, hgot⟩
  · have h := Message.encodeSigned_fit (m := m) (by decide) (by decide) [1]
    obtain ⟨got, a, hgot⟩ := hsigned m [1] _ 0 h rfl
    exact ⟨_, got, a, h, hgot⟩

end Attribute

end MediaSocket.Stun
