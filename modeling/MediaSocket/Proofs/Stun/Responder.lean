import MediaSocket.Proofs.Stun.Attribute
import MediaSocket.Proofs.Stun.Signature
import MediaSocket.Stun.Password
import MediaSocket.Stun.Responder

/-! The responder from datagram to datagram. What it is made with keeps every reply far below the
limits of signing, so that each request without a wrong FINGERPRINT gets a reply, and the reply reads
back as what it says and verifies under the responder's password. -/

namespace MediaSocket.Stun

theorem paddedLength_le_add (n : Nat) : paddedLength n ≤ n + 3 := by
  unfold paddedLength paddingLength
  omega

namespace Responder

/-- The responders that can be made, with the password and the SOFTWARE text that they were given: from
a generated password or one that fits, then with any number of texts, of which the last one stays. -/
inductive Made : String → Option String → Responder → Prop where
  | generated {random : Bytes} {password : String}
      (chosen : Password.generate? random = some password) : Made password none ⟨password, none⟩
  | given {password : String} {r : Responder} (fits : withPassword password = .ok r) :
      Made password none r
  | software {password text : String} {earlier : Option String} {r r' : Responder}
      (made : Made password earlier r) (fits : r.withSoftware text = .ok r') :
      Made password (some text) r'

theorem ite_eq_ok_iff {α : Type} {p : Prop} [Decidable p] {a b : α} {e : Error} :
    (if p then Except.ok a else .error e) = .ok b ↔ p ∧ b = a := by
  split
  · rename_i hp
    rw [Except.ok.injEq]
    exact ⟨fun h => ⟨hp, h.symm⟩, fun h => h.2.symm⟩
  · rename_i hp
    exact ⟨fun h => (nomatch h), fun h => (hp h.1).elim⟩

theorem withPassword_eq_ok_iff {password : String} {r : Responder} :
    withPassword password = .ok r ↔ passwordFits password = true ∧ r = ⟨password, none⟩ :=
  ite_eq_ok_iff

theorem withSoftware_eq_ok_iff {r r' : Responder} {text : String} :
    r.withSoftware text = .ok r' ↔
      softwareFits text = true ∧ r' = { r with software := some text } :=
  ite_eq_ok_iff

/-- Making a responder checks exactly that its password and its SOFTWARE text fit. -/
theorem made_iff {password : String} {software : Option String} {r : Responder} :
    Made password software r ↔ r = ⟨password, software⟩ ∧ passwordFits password = true ∧
      ∀ text ∈ software, softwareFits text = true := by
  constructor
  · intro made
    induction made with
    | generated chosen =>
      have hlength := Password.length_of_generate? chosen
      simp [passwordFits, hlength, Password.length]
    | given fits =>
      obtain ⟨hpassword, rfl⟩ := withPassword_eq_ok_iff.1 fits
      exact ⟨rfl, hpassword, nofun⟩
    | software made fits ih =>
      obtain ⟨hsoftware, rfl⟩ := withSoftware_eq_ok_iff.1 fits
      obtain ⟨rfl, hpassword, -⟩ := ih
      refine ⟨rfl, hpassword, fun text htext => ?_⟩
      cases htext
      exact hsoftware
  · rintro ⟨rfl, hpassword, hsoftware⟩
    have hbare : Made password none ⟨password, none⟩ :=
      .given (withPassword_eq_ok_iff.2 ⟨hpassword, rfl⟩)
    cases software with
    | none => exact hbare
    | some text => exact .software hbare (withSoftware_eq_ok_iff.2 ⟨hsoftware text rfl, rfl⟩)

/-- What a reply says first: where the request came from, or that its method is not supported. -/
def finding (request : Message) (source : Address) : Attribute :=
  if request.method = .binding then .xorMappedAddress source request.transactionId
  else .errorCode 500 "Unimplemented"

/-- The reply to a request, before it is signed. -/
def replyTo (r : Responder) (request : Message) (source : Address) : Message :=
  request.reply (if request.method = .binding then .success else .error)
    (finding request source :: r.software.toList.map Attribute.software)

theorem answer_eq (r : Responder) (request : Message) (source : Address) :
    r.answer request source =
      if request.messageClass = .request then some (r.replyTo request source) else none := by
  obtain ⟨messageClass, method, id, attributes⟩ := request
  cases messageClass <;> cases method <;> rfl

theorem type_of_mem_replyTo {r : Responder} {request : Message} {source : Address} {a : Attribute}
    (ha : a ∈ (r.replyTo request source).attributes) :
    a.type = .xorMappedAddress ∨ a.type = .errorCode ∨ a.type = .software := by
  rcases List.mem_cons.1 ha with rfl | hextra
  · unfold finding
    split
    · exact .inl rfl
    · exact .inr (.inl rfl)
  · obtain ⟨text, -, rfl⟩ := List.mem_map.1 hextra
    exact .inr (.inr rfl)

theorem unsigned_replyTo (r : Responder) (request : Message) (source : Address) :
    (r.replyTo request source).unsigned = (r.replyTo request source).attributes := by
  rw [Message.unsigned, List.filter_eq_self]
  intro a ha
  rcases type_of_mem_replyTo ha with h | h | h <;> rw [h] <;> rfl

theorem isCanonical_of_mem_replyTo {r : Responder} {request : Message} {source : Address}
    {a : Attribute} (ha : a ∈ (r.replyTo request source).attributes) : a.type.IsCanonical := by
  rcases type_of_mem_replyTo ha with h | h | h <;> rw [h] <;> trivial

theorem code_of_mem_replyTo {r : Responder} {request : Message} {source : Address}
    {a : Attribute} (ha : a ∈ (r.replyTo request source).attributes) :
    a.type.code ≠ AttributeType.messageIntegrity.code := by
  rcases type_of_mem_replyTo ha with h | h | h <;> rw [h] <;> decide

theorem length_finding_le (request : Message) (source : Address) :
    (finding request source).value.length ≤ 20 := by
  unfold finding
  split
  · have hoctets := Attribute.length_octets_le source.ip
    simp only [Attribute.xorMappedAddress, List.length_append, List.length_cons,
      List.length_zipWith, Bytes.length_ofUInt16]
    omega
  · rw [Attribute.errorCode]
    simp only [List.length_cons, Text.Utf8.length_encode_toList]
    decide

/-- The SOFTWARE text of a responder fits. -/
def Brief (r : Responder) : Prop := ∀ text ∈ r.software, softwareFits text = true

theorem length_software_le {r : Responder} (brief : r.Brief) {text : String}
    (h : text ∈ r.software) : (Attribute.software text).value.length ≤ 763 := by
  rw [Attribute.software, Text.Utf8.length_encode_toList]
  exact of_decide_eq_true (brief text h)

theorem replyTo_fit {r : Responder} (brief : r.Brief) (request : Message) (source : Address) :
    ∀ a ∈ (r.replyTo request source).unsigned, a.value.length ≤ lengthLimit := by
  intro a ha
  rw [unsigned_replyTo] at ha
  unfold lengthLimit
  rcases List.mem_cons.1 ha with rfl | hextra
  · have hfinding := length_finding_le request source
    omega
  · obtain ⟨text, htext, rfl⟩ := List.mem_map.1 hextra
    have hsoftware := length_software_le brief (Option.mem_toList.1 htext)
    omega

theorem replyTo_small {r : Responder} (brief : r.Brief) (request : Message) (source : Address) :
    bodyLength (r.replyTo request source).unsigned + 32 ≤ lengthLimit := by
  have hfinding := length_finding_le request source
  have hpadded := paddedLength_le_add (finding request source).value.length
  rw [unsigned_replyTo, replyTo, Message.reply, bodyLength]
  unfold lengthLimit
  cases htext : r.software with
  | none =>
    rw [Option.toList_none, List.map_nil, bodyLength]
    omega
  | some text =>
    have hsoftware := length_software_le brief htext
    have hpadded' := paddedLength_le_add (Attribute.software text).value.length
    rw [Option.toList_some, List.map_singleton, bodyLength, bodyLength]
    omega

theorem respond_eq {r : Responder} (brief : r.Brief) (request : Message) (source : Address) :
    r.respond request source =
      if request.messageClass = .request then
        .ok (some ((r.replyTo request source).signed r.key).written)
      else .ok none := by
  have hsigned := Message.encodeSigned_fit (replyTo_fit brief request source)
    (replyTo_small brief request source) r.key
  by_cases hclass : request.messageClass = .request
  · rw [if_pos hclass, respond, answer_eq, if_pos hclass]
    simp only [hsigned, Except.map]
  · rw [if_neg hclass, respond, answer_eq, if_neg hclass]

theorem attribute?_isSome_iff {m : Message} {type : AttributeType} :
    (m.attribute? type).isSome = true ↔ ∃ a ∈ m.attributes, a.type = type := by
  rw [Message.attribute?, List.find?_isSome]
  simp only [beq_iff_eq]

/-- Whether a datagram that is read as `request` has a FINGERPRINT and does not verify. -/
def Mismatched (raw : Bytes) (request : Message) : Prop :=
  (∃ a ∈ request.attributes, a.type = .fingerprint) ∧ verifyFingerprint raw = false

theorem handle_of_error {r : Responder} {raw : Bytes} {e : Error}
    (h : Message.decode raw = .error e) (source : Address) : r.handle raw source = .error e := by
  rw [handle, h]
  rfl

theorem handle_of_mismatched {r : Responder} {raw : Bytes} {request : Message}
    (h : Message.decode raw = .ok request) (wrong : Mismatched raw request) (source : Address) :
    r.handle raw source = .error .fingerprintMismatch := by
  have hfingerprint := attribute?_isSome_iff.2 wrong.1
  simp only [handle, h, bind, Except.bind, hfingerprint, wrong.2]
  rfl

theorem handle_of_matched {r : Responder} {raw : Bytes} {request : Message}
    (h : Message.decode raw = .ok request) (right : ¬Mismatched raw request) (source : Address) :
    r.handle raw source = r.respond request source := by
  have hpass : ((request.attribute? .fingerprint).isSome && !verifyFingerprint raw) = false := by
    rw [Bool.eq_false_iff]
    intro hwrong
    rw [Bool.and_eq_true, Bool.not_eq_true'] at hwrong
    exact right ⟨attribute?_isSome_iff.1 hwrong.1, hwrong.2⟩
  simp only [handle, h, bind, Except.bind, hpass]
  rfl

theorem signed_replyTo (r : Responder) (request : Message) (source : Address) :
    ∃ code mark, (r.replyTo request source).signed r.key =
      ⟨if request.method = .binding then .success else .error, request.method,
        request.transactionId, finding request source :: (r.software.toList.map Attribute.software ++
          [⟨.messageIntegrity, code⟩, ⟨.fingerprint, mark⟩])⟩ := by
  rw [Message.signed, unsigned_replyTo]
  exact ⟨_, _, rfl⟩

theorem isCanonical_signed_replyTo {raw : Bytes} {request : Message}
    (h : Message.decode raw = .ok request) (r : Responder) (source : Address) :
    ((r.replyTo request source).signed r.key).IsCanonical := by
  refine ⟨(Message.isCanonical_of_decode h).1, fun a ha => ?_⟩
  rw [Message.signed, unsigned_replyTo] at ha
  rcases List.mem_append.1 ha with hsaid | htrailer
  · exact isCanonical_of_mem_replyTo hsaid
  · simp only [List.mem_cons, List.not_mem_nil, or_false] at htrailer
    rcases htrailer with rfl | rfl <;> trivial

/-- What a reply to `request` from `source` is: signed under the password, and read as what it
should say. -/
structure Answers (password : String) (software : Option String) (request : Message)
    (source : Address) (reply : Bytes) : Prop where
  read : ∃ first code mark, Message.decode reply =
    .ok ⟨if request.method = .binding then .success else .error, request.method,
      request.transactionId,
      first :: ((software.toList.map fun text => ⟨.software, Text.Utf8.encode text.toList⟩) ++
        [⟨.messageIntegrity, code⟩, ⟨.fingerprint, mark⟩])⟩ ∧
    (request.method = .binding → first.type = .xorMappedAddress ∧
      first.readXorMappedAddress request.transactionId = .ok (.mk source.ip source.port)) ∧
    (request.method ≠ .binding → first.type = .errorCode ∧
      first.readErrorCode = .ok (500, "Unimplemented"))
  fingerprint : verifyFingerprint reply = true
  integrity : verifyIntegrity reply (Text.Utf8.encode password.toList) = true

theorem finding_reads (request : Message) (source : Address) :
    (request.method = .binding → (finding request source).type = .xorMappedAddress ∧
      (finding request source).readXorMappedAddress request.transactionId =
        .ok (.mk source.ip source.port)) ∧
    (request.method ≠ .binding → (finding request source).type = .errorCode ∧
      (finding request source).readErrorCode = .ok (500, "Unimplemented")) := by
  unfold finding
  constructor
  · intro hbinding
    rw [if_pos hbinding]
    exact ⟨rfl, Attribute.readXorMappedAddress_xorMappedAddress source request.transactionId⟩
  · intro hother
    rw [if_neg hother]
    exact ⟨rfl, Attribute.readErrorCode_errorCode 500 "Unimplemented"⟩

theorem answers_signed_replyTo {r : Responder} (brief : r.Brief) {raw : Bytes} {request : Message}
    (h : Message.decode raw = .ok request) (source : Address) :
    Answers r.password r.software request source
      ((r.replyTo request source).signed r.key).written := by
  have fits := replyTo_fit brief request source
  have small := replyTo_small brief request source
  refine ⟨?_, Message.verifyFingerprint_signed fits small r.key, ?_⟩
  · have hdecode := Message.decode_signed fits small r.key
    rw [(Message.canonical_eq_self_iff _).2 (isCanonical_signed_replyTo h r source)] at hdecode
    obtain ⟨code, mark, hsigned⟩ := r.signed_replyTo request source
    exact ⟨finding request source, code, mark, hdecode.trans (congrArg Except.ok hsigned),
      finding_reads request source⟩
  · show verifyIntegrity _ r.key = true
    rw [Message.verifyIntegrity_signed fits small, unsigned_replyTo]
    exact fun a ha => code_of_mem_replyTo ha

/-- A responder gives every datagram exactly one answer: the reason why it cannot be read, a
mismatch, nothing, or a reply that is signed under the password and carries the SOFTWARE text that the
responder was made with. -/
theorem handle_end_to_end {password : String} {software : Option String} {r : Responder}
    (made : Made password software r) (raw : Bytes) (source : Address) :
    (∀ e, Message.decode raw = .error e → r.handle raw source = .error e) ∧
    ∀ request, Message.decode raw = .ok request →
      (Mismatched raw request → r.handle raw source = .error .fingerprintMismatch) ∧
      (¬Mismatched raw request → request.messageClass ≠ .request →
        r.handle raw source = .ok none) ∧
      (¬Mismatched raw request → request.messageClass = .request →
        ∃ reply, r.handle raw source = .ok (some reply) ∧
          Answers password software request source reply) := by
  obtain ⟨rfl, -, hsoftware⟩ := made_iff.1 made
  have brief : Brief ⟨password, software⟩ := hsoftware
  refine ⟨fun e he => handle_of_error he source, fun request h => ⟨?_, ?_, ?_⟩⟩
  · intro wrong
    exact handle_of_mismatched h wrong source
  · intro right hclass
    rw [handle_of_matched h right, respond_eq brief, if_neg hclass]
  · intro right hclass
    refine ⟨_, ?_, answers_signed_replyTo brief h source⟩
    rw [handle_of_matched h right, respond_eq brief, if_pos hclass]

/-- A request without attributes. The key is the bytes of the password, and the SOFTWARE those of the
text. -/
theorem handle_end_to_end_bare :
    let r : Responder := ⟨"0123456789abcdefghijkl", some "mux"⟩
    let request : Message := ⟨.request, .binding, Vector.replicate 12 0, []⟩
    let source : Address := .v4 .loopback 4000
    let key : Bytes := [0x30, 0x31, 0x32, 0x33, 0x34, 0x35, 0x36, 0x37, 0x38, 0x39, 0x61, 0x62, 0x63,
      0x64, 0x65, 0x66, 0x67, 0x68, 0x69, 0x6A, 0x6B, 0x6C]
    Made "0123456789abcdefghijkl" (some "mux") r ∧ Message.decode request.written = .ok request ∧
      ∃ reply first code mark, r.handle request.written source = .ok (some reply) ∧
        Message.decode reply = .ok ⟨.success, .binding, Vector.replicate 12 0,
          [first, ⟨.software, [0x6D, 0x75, 0x78]⟩, ⟨.messageIntegrity, code⟩,
            ⟨.fingerprint, mark⟩]⟩ ∧
        first.type = .xorMappedAddress ∧
        first.readXorMappedAddress (Vector.replicate 12 0) = .ok source ∧
        verifyFingerprint reply = true ∧ verifyIntegrity reply key = true := by
  intro r request source key
  have made : Made "0123456789abcdefghijkl" (some "mux") r := by
    refine made_iff.2 ⟨rfl, by decide, fun text htext => ?_⟩
    cases htext
    decide
  have hdecode : Message.decode request.written = .ok request :=
    Message.decode_written (fun a ha => nomatch ha) (by decide)
  have hright : ¬Mismatched request.written request := fun ⟨⟨a, ha, _⟩, _⟩ => nomatch ha
  obtain ⟨-, hread⟩ := handle_end_to_end made request.written source
  obtain ⟨reply, hreply, ⟨first, code, mark, hanswer, hbinding, -⟩, hfingerprint, hintegrity⟩ :=
    (hread request hdecode).2.2 hright rfl
  have hsoftware : Text.Utf8.encode "mux".toList = [0x6D, 0x75, 0x78] := by decide
  have hkey : Text.Utf8.encode "0123456789abcdefghijkl".toList = key := by decide
  rw [Option.toList_some, List.map_singleton, hsoftware] at hanswer
  rw [hkey] at hintegrity
  obtain ⟨htype, haddress⟩ := hbinding rfl
  exact ⟨made, hdecode, reply, first, code, mark, hreply, hanswer, htype, haddress, hfingerprint,
    hintegrity⟩

end Responder

end MediaSocket.Stun
