import MediaSocket.Proofs.Stun.Signature

/-! Signing twice. What signing puts in place of MESSAGE-INTEGRITY and FINGERPRINT takes their place
again when the message that was read back is signed, so that nothing of the first signature is left. -/

namespace MediaSocket.Stun

/-- The attributes that signing replaces. -/
def Attribute.IsSignature (a : Attribute) : Prop :=
  a.type = .messageIntegrity ∨ a.type = .fingerprint

/-- `mixed` is `plain` with attributes inserted anywhere that signing replaces. -/
inductive Interspersed : List Attribute → List Attribute → Prop
  | nil : Interspersed [] []
  | keep {a : Attribute} {plain mixed : List Attribute} (rest : Interspersed plain mixed) :
      Interspersed (a :: plain) (a :: mixed)
  | insert {a : Attribute} {plain mixed : List Attribute} (signature : a.IsSignature)
      (rest : Interspersed plain mixed) : Interspersed plain (a :: mixed)

/-- No attribute without a name has the code of MESSAGE-INTEGRITY or of FINGERPRINT. -/
def Message.Unambiguous (m : Message) : Prop :=
  ∀ a ∈ m.attributes, a.type ≠ .other 0x0008 ∧ a.type ≠ .other 0x8028

theorem Interspersed.refl (attributes : List Attribute) : Interspersed attributes attributes := by
  induction attributes with
  | nil => exact .nil
  | cons a rest ih => exact .keep ih

/-! ### What is written of an attribute -/

theorem Method.number_canonical (m : Method) : m.canonical.number = m.number := by
  rw [canonical, number_ofNumber, Nat.mod_eq_of_lt m.number_lt]

theorem Attribute.encode_canonical (a : Attribute) : a.canonical.encode = a.encode := by
  have hcode : a.canonical.type.code = a.type.code := AttributeType.code_ofCode _
  simp only [encode, bytes, hcode]
  rfl

/-- Attributes are written by their codes, also those that do not fit. -/
theorem encodeAttributes_canonical (attributes : List Attribute) :
    encodeAttributes (attributes.map Attribute.canonical) = encodeAttributes attributes := by
  induction attributes with
  | nil => rfl
  | cons a rest ih => rw [List.map_cons, encodeAttributes, encodeAttributes, a.encode_canonical, ih]

namespace Message

variable {m d : Message} {mixed : List Attribute}

theorem header_canonical (m : Message) (length : UInt16) :
    m.canonical.header length = m.header length := by
  have htype : packType m.messageClass m.method.canonical = packType m.messageClass m.method := by
    rw [packType, m.method.number_canonical, packType]
  rw [header, header, canonical, htype]

/-! ### What signing keeps -/

theorem encodeSigned_congr (hheader : ∀ length, d.header length = m.header length)
    (hkept : encodeAttributes d.unsigned = encodeAttributes m.unsigned) (key : Bytes) :
    d.encodeSigned key = m.encodeSigned key := by
  simp only [encodeSigned, hheader, hkept]

/-- Naming the types of an unambiguous message makes none of them one that signing replaces. -/
theorem unsigned_canonical (h : m.Unambiguous) :
    m.canonical.unsigned = m.unsigned.map Attribute.canonical := by
  -- A type with the code of a named one is that one or has no name; `h` excludes the second.
  have hkept (named : AttributeType) (hnamed : named.IsCanonical) (a : Attribute)
      (hother : a.type ≠ .other named.code) : a.canonical.type = named ↔ a.type = named := by
    constructor
    · intro hcanonical
      have hcode : a.type.code = named.code := by
        rw [← hcanonical]
        exact (AttributeType.code_ofCode _).symm
      exact (AttributeType.eq_or_other_of_code hnamed hcode).resolve_right hother
    · intro htype
      rw [Attribute.canonical, htype]
      exact (AttributeType.canonical_eq_self_iff named).2 hnamed
  rw [unsigned, unsigned, canonical, List.filter_map]
  congr 1
  refine List.filter_congr fun a ha => ?_
  obtain ⟨hintegrity, hfingerprint⟩ := h a ha
  have hintegrity := hkept .messageIntegrity trivial a hintegrity
  have hfingerprint := hkept .fingerprint trivial a hfingerprint
  rw [Bool.eq_iff_iff]
  simp only [Function.comp_apply, Bool.and_eq_true, bne_iff_ne, ne_eq, hintegrity, hfingerprint]

theorem encodeSigned_canonical (h : m.Unambiguous) (key : Bytes) :
    m.canonical.encodeSigned key = m.encodeSigned key := by
  refine encodeSigned_congr m.header_canonical ?_ key
  rw [unsigned_canonical h, encodeAttributes_canonical]

theorem unsigned_signed (m : Message) (key : Bytes) : (m.signed key).unsigned = m.unsigned := by
  rw [unsigned, signed, List.filter_append, unsigned, List.filter_filter]
  simp only [Bool.and_self]
  -- none of the trailer passes the filter
  exact List.append_nil _

theorem Unambiguous.signed (h : m.Unambiguous) (key : Bytes) : (m.signed key).Unambiguous := by
  intro a ha
  obtain hkept | htrailer := List.mem_append.1 ha
  · exact h a (List.mem_filter.1 hkept |>.1)
  · simp only [List.mem_cons, List.not_mem_nil, or_false] at htrailer
    obtain rfl | rfl := htrailer
    · exact ⟨nofun, nofun⟩
    · exact ⟨nofun, nofun⟩

theorem encodeSigned_signed (m : Message) (key key' : Bytes) :
    (m.signed key).encodeSigned key' = m.encodeSigned key' := by
  have hheader : ∀ length, (m.signed key).header length = m.header length := fun _ => rfl
  exact encodeSigned_congr hheader (congrArg encodeAttributes (m.unsigned_signed key)) key'

end Message

theorem Interspersed.filter_eq {plain mixed : List Attribute} {kept : Attribute → Bool}
    (h : Interspersed plain mixed) (hkept : ∀ a, a.IsSignature → kept a = false) :
    mixed.filter kept = plain.filter kept := by
  induction h with
  | nil => rfl
  | keep _ ih => rw [List.filter_cons, List.filter_cons, ih]
  | insert signature _ ih => rw [List.filter_cons, hkept _ signature, ih]; rfl

theorem Interspersed.encodeSigned_eq {m : Message} {mixed : List Attribute}
    (h : Interspersed m.attributes mixed) (key : Bytes) :
    ({ m with attributes := mixed } : Message).encodeSigned key = m.encodeSigned key := by
  let m' : Message := { m with attributes := mixed }
  have hheader : ∀ length, m'.header length = m.header length := fun _ => rfl
  have hkept : m'.unsigned = m.unsigned := by
    refine h.filter_eq fun a ha => ?_
    rcases ha with htype | htype
    · rw [htype]
      rfl
    · rw [htype]
      rfl
  exact Message.encodeSigned_congr hheader (congrArg encodeAttributes hkept) key

/-- Whatever attributes that signing replaces are inserted in a message, it is signed as if they were
not there, or refused as if they were not. Once it has been signed, signing the message that is read
back gives, under every key, what signing the message itself gives. -/
theorem encodeSigned_again {m : Message} {mixed : List Attribute} (named : m.Unambiguous)
    (inserted : Interspersed m.attributes mixed) :
    let m' : Message := { m with attributes := mixed }
    (∀ key, m'.encodeSigned key = m.encodeSigned key) ∧
    ∀ key raw, m'.encodeSigned key = .ok raw →
      ∃ d, Message.decode raw = .ok d ∧ d.encodeSigned key = .ok raw ∧
        ∀ key', ∃ raw', d.encodeSigned key' = .ok raw' ∧ m'.encodeSigned key' = .ok raw' ∧
          m.encodeSigned key' = .ok raw' := by
  intro m'
  have hmixed : ∀ key, m'.encodeSigned key = m.encodeSigned key := inserted.encodeSigned_eq
  refine ⟨hmixed, fun key raw hraw => ?_⟩
  rw [hmixed] at hraw
  obtain ⟨fits, small, rfl⟩ := Message.encodeSigned_eq_ok_iff.1 hraw
  have hagain : ∀ key', (m.signed key).canonical.encodeSigned key' = m.encodeSigned key' := by
    intro key'
    rw [Message.encodeSigned_canonical (named.signed key), Message.encodeSigned_signed]
  refine ⟨(m.signed key).canonical, Message.decode_signed fits small key,
    (hagain key).trans hraw, fun key' => ?_⟩
  have hfit := Message.encodeSigned_fit fits small key'
  exact ⟨_, (hagain key').trans hfit, (hmixed key').trans hfit, hfit⟩

/-- A MESSAGE-INTEGRITY that fits no length field does no harm. -/
theorem encodeSigned_again_long :
    let m : Message := ⟨.request, .binding, Vector.replicate 12 0, [⟨.software, [0x61]⟩]⟩
    let m' : Message := { m with
      attributes := ⟨.messageIntegrity, List.replicate 70000 0⟩ :: m.attributes }
    ∃ raw d, m'.encodeSigned [1, 2] = .ok raw ∧ Message.decode raw = .ok d ∧
      d.encodeSigned [1, 2] = .ok raw ∧ d.encodeSigned [3] = m'.encodeSigned [3] := by
  intro m m'
  have named : m.Unambiguous := by
    intro a ha
    obtain rfl := List.mem_singleton.1 ha
    exact ⟨nofun, nofun⟩
  have inserted : Interspersed m.attributes m'.attributes := .insert (.inl rfl) (.refl _)
  obtain ⟨hmixed, hagain⟩ := encodeSigned_again named inserted
  have hraw := (hmixed [1, 2]).trans (Message.encodeSigned_fit (m := m) (by decide) (by decide) [1, 2])
  obtain ⟨d, hdecode, hsame, hother⟩ := hagain _ _ hraw
  obtain ⟨raw', hd, hm', -⟩ := hother [3]
  exact ⟨_, d, hraw, hdecode, hsame, hd.trans hm'.symm⟩

end MediaSocket.Stun
