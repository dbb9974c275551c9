import MediaSocket.Packet
import MediaSocket.Proofs.Stun.Responder

/-! What replies look like on the wire. A reply is a response and never a request, so that no responder
answers it, and a reply to a datagram that starts like STUN starts like STUN itself. -/

namespace MediaSocket.Stun

theorem type_lt_of_stun {raw : Bytes} (stun : PacketClass.of raw = .stun) :
    (Header.of raw).type.toNat < 512 := by
  obtain ⟨first, rest, rfl, hfirst⟩ := PacketClass.of_eq_stun_iff.1 stun
  have hnext := (rest.getD 0 0).toNat_lt
  show (Bytes.toUInt16 first (rest.getD 0 0)).toNat < 512
  rw [Bytes.toUInt16, UInt16.toNat_ofNat']
  have hone : first.toNat ≤ 1 := UInt8.le_iff_toNat_le.1 hfirst
  omega

/-- The high bits of a method stand in the first byte of its type. -/
theorem number_unpackType_lt {type : UInt16} (low : type.toNat < 512) :
    (unpackType type).2.number < 128 := by
  have hhigh : type.toNat / 512 = 0 := Nat.div_eq_of_lt low
  have hmid : type.toNat / 32 % 8 < 8 := Nat.mod_lt _ (by decide)
  have hbottom : type.toNat % 16 < 16 := Nat.mod_lt _ (by decide)
  simp only [unpackType, Method.number_ofNumber, hhigh]
  refine Nat.lt_of_le_of_lt (Nat.mod_le _ _) ?_
  omega

/-- The type of a response whose method has no high bits has 1 as its first byte. -/
theorem packType_response_high {c : MessageClass} {m : Method} (response : 2 ≤ c.number)
    (low : m.number < 128) : (packType c m).toNat / 256 = 1 := by
  obtain ⟨high, mid, bottom, c1, c0, hm, -, hmid, hbottom, hc, -, hc0⟩ := exists_parts c m
  have hclt := c.number_lt
  have ht := toNat_packType hm hmid hbottom hc hc0
  omega

theorem type_written (m : Message) :
    (Header.of m.written).type = packType m.messageClass m.method := by
  rw [m.written_eq_frame, frame_eq, Header.of_append]

theorem messageClass_written (m : Message) :
    (Header.of m.written).messageClass = m.messageClass := by
  rw [Header.messageClass, type_written, unpackType_packType]

theorem head?_written (m : Message) :
    m.written.head? = some (UInt8.ofNat ((packType m.messageClass m.method).toNat / 256)) := by
  rw [m.written_eq_frame]
  rfl

namespace Message

theorem messageClass_of_decode {raw : Bytes} {m : Message} (h : decode raw = .ok m) :
    m.messageClass = (Header.of raw).messageClass := by
  obtain ⟨low, whole, attributes⟩ := decode_eq_ok_iff.1 h
  rw [Header.messageClass, frame_eq, Header.of_append]

theorem method_of_decode {raw : Bytes} {m : Message} (h : decode raw = .ok m) :
    m.method = (unpackType (Header.of raw).type).2 := by
  obtain ⟨low, whole, attributes⟩ := decode_eq_ok_iff.1 h
  rw [frame_eq, Header.of_append]

theorem length_of_decode {raw : Bytes} {m : Message} (h : decode raw = .ok m) :
    headerLength ≤ raw.length := by
  obtain ⟨low, whole, attributes⟩ := decode_eq_ok_iff.1 h
  rw [length_frame]
  omega

end Message

/-- Cutting a datagram behind its header does not change the header. -/
theorem Header.of_take {raw : Bytes} {n : Nat} (long : headerLength ≤ (raw.take n).length) :
    Header.of (raw.take n) = Header.of raw := by
  obtain ⟨header, body, htake⟩ := exists_header long
  have hraw : raw = header.bytes ++ (body ++ raw.drop n) := by
    rw [← List.append_assoc, ← htake, List.take_append_drop]
  rw [htake, Header.of_append, hraw, Header.of_append]

namespace Responder

theorem respond_eq_some {r : Responder} {request : Message} {source : Address} {reply : Bytes}
    (h : r.respond request source = .ok (some reply)) :
    request.messageClass = .request ∧ (r.replyTo request source).encodeSigned r.key = .ok reply := by
  rw [respond, answer_eq] at h
  by_cases hclass : request.messageClass = .request
  · rw [if_pos hclass] at h
    refine ⟨hclass, ?_⟩
    cases hsigned : (r.replyTo request source).encodeSigned r.key with
    | error e => simp [hsigned, Except.map] at h
    | ok raw => simpa [hsigned, Except.map] using h
  · rw [if_neg hclass] at h
    cases h

theorem respond_of_not_request (r : Responder) {request : Message}
    (h : request.messageClass ≠ .request) (source : Address) :
    r.respond request source = .ok none := by
  rw [respond, answer_eq, if_neg h]

/-- What a reply answers and what it is, whatever the responder was made with. -/
theorem handle_eq_some {r : Responder} {raw : Bytes} {source : Address} {reply : Bytes}
    (h : r.handle raw source = .ok (some reply)) :
    ∃ request, Message.decode raw = .ok request ∧ request.messageClass = .request ∧
      (r.replyTo request source).encodeSigned r.key = .ok reply := by
  cases hdecode : Message.decode raw with
  | error e =>
    rw [handle_of_error hdecode] at h
    cases h
  | ok request =>
    by_cases wrong : Mismatched raw request
    · rw [handle_of_mismatched hdecode wrong] at h
      cases h
    · rw [handle_of_matched hdecode wrong] at h
      exact ⟨request, rfl, respond_eq_some h⟩

/-- Only a request is answered, and what is left of a datagram that has been cut is one only if the
datagram was. -/
theorem messageClass_of_handle_take {r : Responder} {raw : Bytes} {n : Nat} {source : Address}
    {reply : Bytes} (h : r.handle (raw.take n) source = .ok (some reply)) :
    (Header.of raw).messageClass = .request := by
  obtain ⟨request, hdecode, hclass, -⟩ := handle_eq_some h
  rw [← Header.of_take (Message.length_of_decode hdecode),
    ← Message.messageClass_of_decode hdecode, hclass]

theorem two_le_number_replyTo (r : Responder) (request : Message) (source : Address) :
    2 ≤ (r.replyTo request source).messageClass.number := by
  show 2 ≤ (if request.method = .binding then MessageClass.success else .error).number
  split <;> decide

/-- A reply is no request. -/
theorem messageClass_reply {r : Responder} {raw : Bytes} {source : Address} {reply : Bytes}
    (h : r.handle raw source = .ok (some reply)) :
    (Header.of reply).messageClass ≠ .request := by
  obtain ⟨request, -, -, hsigned⟩ := handle_eq_some h
  obtain ⟨-, -, rfl⟩ := Message.encodeSigned_eq_ok_iff.1 hsigned
  have hresponse := r.two_le_number_replyTo request source
  rw [messageClass_written]
  intro hclass
  rw [show (r.replyTo request source).messageClass = .request from hclass] at hresponse
  exact absurd hresponse (by decide)

/-- A reply to a datagram that starts like STUN starts with 1. -/
theorem head?_reply {r : Responder} {raw : Bytes} {source : Address} {reply : Bytes}
    (stun : PacketClass.of raw = .stun) (h : r.handle raw source = .ok (some reply)) :
    reply.head? = some 0x01 := by
  obtain ⟨request, hdecode, -, hsigned⟩ := handle_eq_some h
  obtain ⟨-, -, rfl⟩ := Message.encodeSigned_eq_ok_iff.1 hsigned
  have hmethod : request.method.number < 128 := by
    rw [Message.method_of_decode hdecode]
    exact number_unpackType_lt (type_lt_of_stun stun)
  have hhigh : (packType (r.replyTo request source).messageClass request.method).toNat / 256 = 1 :=
    packType_response_high (r.two_le_number_replyTo request source) hmethod
  rw [head?_written]
  show some (UInt8.ofNat
    ((packType (r.replyTo request source).messageClass request.method).toNat / 256)) = some 1
  rw [hhigh]
  rfl

theorem class_reply {r : Responder} {raw : Bytes} {source : Address} {reply : Bytes}
    (stun : PacketClass.of raw = .stun) (h : r.handle raw source = .ok (some reply)) :
    PacketClass.of reply = .stun := by
  obtain ⟨rest, rfl⟩ := List.head?_eq_some_iff.1 (head?_reply stun h)
  rfl

/-- No responder answers a reply of any responder, and none refuses it. -/
theorem handle_reply {r : Responder} {raw : Bytes} {source : Address} {reply : Bytes}
    (h : r.handle raw source = .ok (some reply)) (r' : Responder) (source' : Address) :
    r'.handle reply source' = .ok none := by
  obtain ⟨request, -, -, hsigned⟩ := handle_eq_some h
  obtain ⟨fits, small, hreply⟩ := Message.encodeSigned_eq_ok_iff.1 hsigned
  have hdecode := Message.decode_signed fits small r.key
  have hright := Message.verifyFingerprint_signed fits small r.key
  rw [← hreply] at hdecode hright
  have matched : ¬Mismatched reply ((r.replyTo request source).signed r.key).canonical :=
    fun wrong => Bool.false_ne_true (wrong.2.symm.trans hright)
  rw [handle_of_matched hdecode matched]
  refine respond_of_not_request r' ?_ source'
  rw [Message.messageClass_of_decode hdecode]
  exact messageClass_reply h

end Responder

end MediaSocket.Stun
