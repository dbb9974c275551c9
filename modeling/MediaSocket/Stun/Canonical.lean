import MediaSocket.Stun.Message

/-!
Canonical messages: every method and attribute type that has a name goes by it. Messages that are
read are canonical, and writing does not tell a message from its canonical form.
-/

namespace MediaSocket.Stun

/-- The method that a written one is read as. -/
def Method.canonical (m : Method) : Method := .ofNumber m.number

/-- Whether a method with a name goes by it and any other has 12 bits. -/
def Method.IsCanonical : Method → Prop
  | .binding => True
  | .other n => n ≠ 1 ∧ n < 4096

def AttributeType.canonical (t : AttributeType) : AttributeType := .ofCode t.code

/-- Whether a type with a name goes by it. -/
def AttributeType.IsCanonical : AttributeType → Prop
  | .other code => ∀ t ∈ named, t.code ≠ code
  | _ => True

def Attribute.canonical (a : Attribute) : Attribute := { a with type := a.type.canonical }

namespace Message

def canonical (m : Message) : Message :=
  { m with method := m.method.canonical, attributes := m.attributes.map Attribute.canonical }

def IsCanonical (m : Message) : Prop :=
  m.method.IsCanonical ∧ ∀ a ∈ m.attributes, a.type.IsCanonical

end Message

/-- The number of bytes that attributes take in a message. -/
def bodyLength : List Attribute → Nat
  | [] => 0
  | a :: rest => 4 + paddedLength a.value.length + bodyLength rest

theorem Method.number_lt (m : Method) : m.number < 4096 := by
  cases m with
  | binding => decide
  | other n => exact Nat.mod_lt _ (by decide)

theorem Method.canonical_eq_self_iff (m : Method) : m.canonical = m ↔ m.IsCanonical := by
  cases m with
  | binding => simp [canonical, number, ofNumber, IsCanonical]
  | other n =>
    have hn := n.toNat_lt
    simp only [canonical, number, ofNumber, IsCanonical, Nat.mod_mod]
    constructor
    · intro h
      split at h
      · simp at h
      · rename_i h1
        have h2 : UInt16.ofNat (n.toNat % 4096) = n := by simpa using h
        have h3 : n.toNat % 4096 = n.toNat := by
          have := congrArg UInt16.toNat h2
          simpa [Nat.mod_eq_of_lt (show n.toNat % 4096 < 65536 by omega)] using this
        refine ⟨fun he => ?_, UInt16.lt_iff_toNat_lt.2 ?_⟩
        · subst he; simp at h1
        · simp; omega
    · rintro ⟨h1, h2⟩
      have h2 : n.toNat < 4096 := by simpa using UInt16.lt_iff_toNat_lt.1 h2
      have h3 : n.toNat % 4096 = n.toNat := Nat.mod_eq_of_lt h2
      have h4 : n.toNat ≠ 1 := fun h => h1 (UInt16.toNat_inj.1 (by simpa using h))
      simp [h3, h4]

theorem AttributeType.code_ofCode (code : UInt16) : (ofCode code).code = code := by
  unfold ofCode
  cases h : named.find? fun t => t.code == code with
  | none => rfl
  | some t => simpa using List.find?_some h

theorem AttributeType.canonical_eq_self_iff (t : AttributeType) :
    t.canonical = t ↔ t.IsCanonical := by
  cases t with
  | other n =>
    simp only [canonical, ofCode, IsCanonical]
    constructor
    · intro h t ht he
      cases hf : named.find? fun t => t.code == (AttributeType.other n).code with
      | none => exact List.find?_eq_none.1 hf t ht (beq_iff_eq.2 he)
      | some u =>
        rw [hf] at h
        have hu := List.mem_of_find?_eq_some hf
        simp only [Option.getD_some] at h
        subst h
        simp [named] at hu
    · intro h
      rw [List.find?_eq_none.2 (by simpa [code] using h)]
      rfl
  | _ => simp only [IsCanonical, iff_true]; decide

end MediaSocket.Stun
