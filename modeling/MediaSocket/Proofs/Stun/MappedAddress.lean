import MediaSocket.Proofs.Address.Text
import MediaSocket.Proofs.Stun.Attribute

/-! XOR-MAPPED-ADDRESS both ways: what is read of an address that was written, under the same or another
transaction id, and which values are read at all and are written the same again. -/

namespace MediaSocket.Stun

/-- The value of a XOR-MAPPED-ADDRESS has the length that its family asks for. -/
def IsMapped (value : Bytes) : Prop :=
  value.length = 8 ∧ value[1]? = some 1 ∨ value.length = 20 ∧ value[1]? = some 2

/-- Why a value is no XOR-MAPPED-ADDRESS. -/
inductive Unmapped (value : Bytes) : Error → Prop
  | short (h : value.length < 4) : Unmapped value (.badAttribute "XOR-MAPPED-ADDRESS too short")
  | ipv4 (long : 4 ≤ value.length) (family : value[1]? = some 1) (h : value.length ≠ 8) :
      Unmapped value (.badAttribute "bad IPv4 XOR-MAPPED-ADDRESS length")
  | ipv6 (long : 4 ≤ value.length) (family : value[1]? = some 2) (h : value.length ≠ 20) :
      Unmapped value (.badAttribute "bad IPv6 XOR-MAPPED-ADDRESS length")
  | family {f : UInt8} (long : 4 ≤ value.length) (family : value[1]? = some f)
      (other : f ≠ 1 ∧ f ≠ 2) : Unmapped value (.unsupportedFamily f)

variable {value hidden : Bytes} {first family p1 p2 : UInt8} {ip : Ip} {e : Error}

theorem exists_mapped_parts (long : 4 ≤ value.length) :
    ∃ first family p1 p2 hidden, value = first :: family :: p1 :: p2 :: hidden := by
  rcases value with _ | ⟨first, _ | ⟨family, _ | ⟨p1, _ | ⟨p2, hidden⟩⟩⟩⟩
  all_goals first | exact ⟨first, family, p1, p2, hidden, rfl⟩ | simp at long

theorem isMapped_or_unmapped (value : Bytes) : IsMapped value ∨ ∃ e, Unmapped value e := by
  obtain hshort | long := Nat.lt_or_ge value.length 4
  · exact .inr ⟨_, .short hshort⟩
  · obtain ⟨family, hfamily⟩ : ∃ family, value[1]? = some family :=
      ⟨_, List.getElem?_eq_getElem (by omega)⟩
    by_cases hone : family = 1
    · subst hone
      by_cases h : value.length = 8
      · exact .inl (.inl ⟨h, hfamily⟩)
      · exact .inr ⟨_, .ipv4 long hfamily h⟩
    · by_cases htwo : family = 2
      · subst htwo
        by_cases h : value.length = 20
        · exact .inl (.inr ⟨h, hfamily⟩)
        · exact .inr ⟨_, .ipv6 long hfamily h⟩
      · exact .inr ⟨_, .family long hfamily ⟨hone, htwo⟩⟩

namespace Attribute

theorem readXorMappedAddress_parts (first family p1 p2 : UInt8) (hidden : Bytes)
    (t : TransactionId) :
    (⟨.xorMappedAddress, first :: family :: p1 :: p2 :: hidden⟩ : Attribute).readXorMappedAddress t =
      (readXorHost family hidden t).map (.mk · (Bytes.toUInt16 p1 p2 ^^^ portMask)) := rfl

theorem readXorMappedAddress_of_unmapped (h : Unmapped value e) (t : TransactionId) :
    (⟨.xorMappedAddress, value⟩ : Attribute).readXorMappedAddress t = .error e := by
  cases h with
  | short h =>
    rcases value with _ | ⟨first, _ | ⟨family, _ | ⟨p1, _ | ⟨p2, hidden⟩⟩⟩⟩
    · rfl
    · rfl
    · rfl
    · rfl
    · simp at h
      omega
  | ipv4 long hfamily h =>
    obtain ⟨first, family, p1, p2, hidden, rfl⟩ := exists_mapped_parts long
    obtain rfl : family = 1 := Option.some.inj hfamily
    have hlength : hidden.length ≠ 4 := by simpa using h
    rw [readXorMappedAddress_parts, readXorHost, if_pos rfl, if_neg hlength]
    rfl
  | ipv6 long hfamily h =>
    obtain ⟨first, family, p1, p2, hidden, rfl⟩ := exists_mapped_parts long
    obtain rfl : family = 2 := Option.some.inj hfamily
    have hlength : hidden.length ≠ 16 := by simpa using h
    rw [readXorMappedAddress_parts, readXorHost, if_neg (by decide), if_pos rfl, if_neg hlength]
    rfl
  | family long hfamily other =>
    obtain ⟨first, family, p1, p2, hidden, rfl⟩ := exists_mapped_parts long
    obtain rfl := Option.some.inj hfamily
    rw [readXorMappedAddress_parts, readXorHost, if_neg other.1, if_neg other.2]
    rfl

/-- A host that is hidden as some bytes, and a port, are written as what they were read from. -/
theorem xorMappedAddress_mk {t : TransactionId} (first p1 p2 : UInt8)
    (hhidden : List.zipWith (· ^^^ ·) ip.octets (addressMask t) = hidden) :
    xorMappedAddress (.mk ip (Bytes.toUInt16 p1 p2 ^^^ portMask)) t =
      ⟨.xorMappedAddress,
        List.set (first :: (if (Address.mk ip 0).isIpv4 then 1 else 2) :: p1 :: p2 :: hidden) 0 0⟩ := by
  have hport : Bytes.ofUInt16 (Bytes.toUInt16 p1 p2 ^^^ portMask ^^^ portMask) = [p1, p2] := by
    rw [UInt16.xor_assoc, UInt16.xor_self, UInt16.xor_zero, Bytes.ofUInt16_toUInt16]
  cases ip with
  | v4 ip =>
    simp only [xorMappedAddress, Address.mk, Address.port, Address.ip, hport, hhidden]
    rfl
  | v6 ip =>
    simp only [xorMappedAddress, Address.mk, Address.port, Address.ip, hport, hhidden]
    rfl

/-- What is read is written with the same bytes, the first one apart, which is not read. -/
theorem readXorMappedAddress_of_mapped (h : IsMapped value) (t : TransactionId) :
    ∃ a, (⟨.xorMappedAddress, value⟩ : Attribute).readXorMappedAddress t = .ok a ∧
      xorMappedAddress a t = ⟨.xorMappedAddress, value.set 0 0⟩ := by
  have long : 4 ≤ value.length := by
    rcases h with ⟨h, -⟩ | ⟨h, -⟩ <;> omega
  obtain ⟨first, family, p1, p2, hidden, rfl⟩ := exists_mapped_parts long
  have hshown (hlength : hidden.length ≤ 16) :
      List.zipWith (· ^^^ ·) (List.zipWith (· ^^^ ·) hidden (addressMask t)) (addressMask t) =
        hidden :=
    zipWith_xor_zipWith_xor (by rw [length_addressMask]; exact hlength)
  have hlength : (List.zipWith (· ^^^ ·) hidden (addressMask t)).length = min hidden.length 16 := by
    rw [List.length_zipWith, length_addressMask]
  rw [readXorMappedAddress_parts]
  rcases h with ⟨h, hfamily⟩ | ⟨h, hfamily⟩
  · obtain rfl : family = 1 := Option.some.inj hfamily
    have hfour : hidden.length = 4 := by simpa using h
    rw [readXorHost, if_pos rfl, if_pos hfour]
    refine ⟨_, rfl, xorMappedAddress_mk first p1 p2 ?_⟩
    rw [Ip.octets, Ipv4.octets_ofBytes (by omega), hshown (by omega)]
  · obtain rfl : family = 2 := Option.some.inj hfamily
    have hsixteen : hidden.length = 16 := by simpa using h
    rw [readXorHost, if_neg (by decide), if_pos rfl, if_pos hsixteen]
    refine ⟨_, rfl, xorMappedAddress_mk first p1 p2 ?_⟩
    rw [Ip.octets, Ipv6.octets_ofBytes (by omega), hshown (by omega)]

/-- A XOR-MAPPED-ADDRESS gives back host and port, without flow label and scope, under the transaction
id that it was written under; under another only the last twelve octets of an IPv6 host differ. Of the
values it may have, those with the length of their family are read, and what is read is written the
same, with a zero in front. -/
theorem xorMappedAddress_both_ways (a : Address) (t u : TransactionId) (value : Bytes) :
    (xorMappedAddress a t).readXorMappedAddress t = .ok (.mk a.ip a.port) ∧
    (xorMappedAddress a t).readXorMappedAddress u = .ok (.mk (mistaken t u a.ip) a.port) ∧
    ((∃ b, (⟨.xorMappedAddress, value⟩ : Attribute).readXorMappedAddress t = .ok b) ↔
      IsMapped value) ∧
    (∀ b, (⟨.xorMappedAddress, value⟩ : Attribute).readXorMappedAddress t = .ok b →
      xorMappedAddress b t = ⟨.xorMappedAddress, value.set 0 0⟩) ∧
    ∀ e, (⟨.xorMappedAddress, value⟩ : Attribute).readXorMappedAddress t = .error e ↔
      Unmapped value e := by
  refine ⟨readXorMappedAddress_xorMappedAddress a t, readXorMappedAddress_of_other a t u, ?_⟩
  obtain hmapped | ⟨e, hunmapped⟩ := isMapped_or_unmapped value
  · obtain ⟨b, hread, hwritten⟩ := readXorMappedAddress_of_mapped hmapped t
    rw [hread]
    refine ⟨⟨fun _ => hmapped, fun _ => ⟨b, rfl⟩⟩, ?_, ?_⟩
    · rintro b ⟨⟩
      exact hwritten
    · intro e
      refine ⟨nofun, fun hunmapped => ?_⟩
      rw [readXorMappedAddress_of_unmapped hunmapped t] at hread
      cases hread
  · have hread := readXorMappedAddress_of_unmapped hunmapped t
    rw [hread]
    refine ⟨⟨nofun, fun hmapped => ?_⟩, nofun, fun e' => ⟨?_, fun hunmapped' => ?_⟩⟩
    · obtain ⟨b, hread', -⟩ := readXorMappedAddress_of_mapped hmapped t
      rw [hread] at hread'
      cases hread'
    · rintro ⟨⟩
      exact hunmapped
    · rw [← hread, readXorMappedAddress_of_unmapped hunmapped' t]

/-- An IPv6 host read under another id is another host, and the first byte of a value does not count. -/
theorem xorMappedAddress_both_ways_ipv6 :
    let a : Address :=
      .v6 (.ofBytes [0x20, 0x01, 0x0D, 0xB8, 1, 2, 3, 4, 5, 6, 7, 8, 9, 10, 11, 12]) 40000 9 7
    let b : Ip := .v6 (.ofBytes [0x20, 0x01, 0x0D, 0xB8, 14, 13, 12, 11, 10, 9, 8, 7, 6, 5, 4, 3])
    let t : TransactionId := Vector.replicate 12 7
    let u : TransactionId := Vector.replicate 12 8
    let value : Bytes := 0x80 :: (xorMappedAddress a t).value.tail
    (xorMappedAddress a t).readXorMappedAddress u = .ok (.mk b 40000) ∧
      ∃ c, (⟨.xorMappedAddress, value⟩ : Attribute).readXorMappedAddress t = .ok c ∧
        xorMappedAddress c t = ⟨.xorMappedAddress, value.set 0 0⟩ := by
  intro a b t u value
  obtain ⟨-, hother, hread, hwritten, -⟩ := xorMappedAddress_both_ways a t u value
  obtain ⟨c, hc⟩ := hread.2 (.inr ⟨rfl, rfl⟩)
  have hmistaken : mistaken t u a.ip = b := by decide
  rw [hmistaken] at hother
  exact ⟨hother, c, hc, hwritten c hc⟩

example : (xorMappedAddress (.v4 (.ofBytes [192, 0, 2, 1]) 32853) (Vector.replicate 12 0)).value =
    [0x00, 0x01, 0xA1, 0x47, 0xE1, 0x12, 0xA6, 0x43] := by decide

end Attribute

end MediaSocket.Stun
