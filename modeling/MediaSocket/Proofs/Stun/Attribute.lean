import MediaSocket.Proofs.Text.Utf8
import MediaSocket.Stun.Attribute

/-! What is written into the values of XOR-MAPPED-ADDRESS and ERROR-CODE is read back from them. -/

namespace MediaSocket.Stun

theorem xor_xor_self (a b : UInt8) : a ^^^ b ^^^ b = a := by
  rw [UInt8.xor_assoc, UInt8.xor_self, UInt8.xor_zero]

/-- Hiding bytes a second time shows them again. -/
theorem zipWith_xor_zipWith_xor {bytes mask : Bytes} (h : bytes.length ≤ mask.length) :
    List.zipWith (· ^^^ ·) (List.zipWith (· ^^^ ·) bytes mask) mask = bytes := by
  induction bytes generalizing mask with
  | nil => rfl
  | cons b bytes ih =>
    cases mask with
    | nil => simp at h
    | cons c mask =>
      have hrest := ih (Nat.le_of_succ_le_succ h)
      simp only [List.zipWith_cons_cons, hrest, xor_xor_self]

theorem length_addressMask (id : TransactionId) : (addressMask id).length = 16 := by
  rw [addressMask, List.length_append, Bytes.length_ofUInt32, Vector.length_toList]

/-- The first four bytes are hidden with the cookie both times, which shows them again. -/
theorem zipWith_addressMask_twice {front : Bytes} (h : front.length = 4) (back : Bytes)
    (t u : TransactionId) :
    List.zipWith (· ^^^ ·) (List.zipWith (· ^^^ ·) (front ++ back) (addressMask t)) (addressMask u) =
      front ++ List.zipWith (· ^^^ ·) (List.zipWith (· ^^^ ·) back t.toList) u.toList := by
  have hcookie : front.length = (Bytes.ofUInt32 magicCookie).length := h
  have hhidden : (List.zipWith (· ^^^ ·) front (Bytes.ofUInt32 magicCookie)).length =
      (Bytes.ofUInt32 magicCookie).length := by
    rw [List.length_zipWith, hcookie, Nat.min_self]
  rw [addressMask, addressMask, List.zipWith_append hcookie, List.zipWith_append hhidden,
    zipWith_xor_zipWith_xor (Nat.le_of_eq hcookie)]

/-- The host that a reader with the transaction id `u` takes for the one that was hidden with `t`: the
cookie hides an IPv4 host and the first four octets of an IPv6 host, the id the other twelve. -/
def mistaken (t u : TransactionId) : Ip → Ip
  | .v4 ip => .v4 ip
  | .v6 ip =>
    .v6 (.ofBytes (ip.octets.toList.take 4 ++
      List.zipWith (· ^^^ ·) (List.zipWith (· ^^^ ·) (ip.octets.toList.drop 4) t.toList) u.toList))

theorem mistaken_self (t : TransactionId) (ip : Ip) : mistaken t t ip = ip := by
  cases ip with
  | v4 ip => rfl
  | v6 ip =>
    have hfit : (ip.octets.toList.drop 4).length = t.toList.length := by
      rw [List.length_drop, Vector.length_toList, Vector.length_toList]
    rw [mistaken, zipWith_xor_zipWith_xor (Nat.le_of_eq hfit), List.take_append_drop,
      Ipv6.ofBytes_octets]

namespace Attribute

theorem length_octets_le (ip : Ip) : ip.octets.length ≤ 16 := by
  cases ip with
  | v4 ip =>
    rw [Ip.octets, Vector.length_toList]
    decide
  | v6 ip => exact Nat.le_of_eq ip.octets.length_toList

theorem readXorHost_hidden (a : Address) (t u : TransactionId) :
    readXorHost (if a.isIpv4 then 1 else 2)
      (List.zipWith (· ^^^ ·) a.ip.octets (addressMask t)) u = .ok (mistaken t u a.ip) := by
  have hlength : (List.zipWith (· ^^^ ·) a.ip.octets (addressMask t)).length = a.ip.octets.length := by
    rw [List.length_zipWith, length_addressMask, Nat.min_eq_left (length_octets_le a.ip)]
  rw [readXorHost, hlength]
  cases a with
  | v4 ip port =>
    have htwice := zipWith_addressMask_twice ip.octets.length_toList [] t u
    rw [List.append_nil, List.zipWith_nil_left, List.zipWith_nil_left, List.append_nil] at htwice
    rw [Address.ip, Ip.octets, htwice, Vector.length_toList, Ipv4.ofBytes_octets]
    rfl
  | v6 ip port flow scope =>
    have hfront : (ip.octets.toList.take 4).length = 4 := by
      rw [List.length_take, Vector.length_toList]
      decide
    have htwice := zipWith_addressMask_twice hfront (ip.octets.toList.drop 4) t u
    rw [List.take_append_drop] at htwice
    rw [Address.ip, Ip.octets, htwice, Vector.length_toList]
    rfl

theorem readXorMappedAddress_of_other (a : Address) (t u : TransactionId) :
    (xorMappedAddress a t).readXorMappedAddress u = .ok (.mk (mistaken t u a.ip) a.port) := by
  have hport : Bytes.toUInt16 (UInt8.ofNat ((a.port ^^^ portMask).toNat / 256))
      (UInt8.ofNat (a.port ^^^ portMask).toNat) ^^^ portMask = a.port := by
    rw [Bytes.toUInt16_ofUInt16, UInt16.xor_assoc, UInt16.xor_self, UInt16.xor_zero]
  have hhost := readXorHost_hidden a t u
  simp only [xorMappedAddress, readXorMappedAddress, if_true, Bytes.ofUInt16, List.cons_append,
    List.nil_append, hhost, hport]
  rfl

theorem readXorMappedAddress_xorMappedAddress (a : Address) (id : TransactionId) :
    (xorMappedAddress a id).readXorMappedAddress id = .ok (.mk a.ip a.port) := by
  rw [readXorMappedAddress_of_other, mistaken_self]

/-- The hundreds have three bits, so that codes are written modulo 800. -/
theorem readErrorCode_errorCode (code : UInt16) (reason : String) :
    (errorCode code reason).readErrorCode = .ok (UInt16.ofNat (code.toNat % 800), reason) := by
  have hundreds : (UInt8.ofNat (code.toNat / 100 % 8)).toNat = code.toNat / 100 % 8 := by
    rw [UInt8.toNat_ofNat']
    omega
  have hrest : (UInt8.ofNat (code.toNat % 100)).toNat = code.toNat % 100 := by
    rw [UInt8.toNat_ofNat']
    omega
  have hcode : code.toNat / 100 % 8 % 8 * 100 + code.toNat % 100 = code.toNat % 800 := by omega
  simp only [errorCode, readErrorCode, hundreds, hrest, hcode, Text.Utf8.decodeLossy_encode,
    String.ofList_toList]

end Attribute

end MediaSocket.Stun
