import MediaSocket.Stun.Decode
import MediaSocket.Text.Quoted

/-!
The Binding responder: a Binding request is answered with the address it came from, any other
request with error 500, everything else not at all. Replies are signed with the ICE password.
-/

namespace MediaSocket.Stun

/-- Whether a password may sign replies: 22 to 256 characters. -/
def passwordFits (password : String) : Bool :=
  22 ≤ password.length && password.length ≤ 256

/-- Whether a text may stand in SOFTWARE: at most 763 bytes. -/
def softwareFits (software : String) : Bool :=
  software.utf8ByteSize ≤ 763

/-- What replies are made with. The password signs them and is never part of them. -/
structure Responder where
  password : String
  software : Option String
  deriving DecidableEq, Repr

namespace Responder

def withPassword (password : String) : Except Error Responder :=
  if passwordFits password then .ok ⟨password, none⟩ else .error (.badPassword password.length)

def withSoftware (r : Responder) (software : String) : Except Error Responder :=
  if softwareFits software then .ok { r with software := some software }
  else .error (.softwareTooLong software.utf8ByteSize)

def key (r : Responder) : Bytes := Text.Utf8.encode r.password.toList

/-- The reply to a request from `source`, before it is signed. -/
def answer (r : Responder) (request : Message) (source : Address) : Option Message :=
  let extra := r.software.toList.map Attribute.software
  match request.messageClass, request.method with
  | .request, .binding =>
    some (request.reply .success (.xorMappedAddress source request.transactionId :: extra))
  | .request, _ => some (request.reply .error (.errorCode 500 "Unimplemented" :: extra))
  | _, _ => none

/-- The signed reply to a message from `source`, if it is to be answered. -/
def respond (r : Responder) (request : Message) (source : Address) :
    Except Error (Option Bytes) :=
  match r.answer request source with
  | none => .ok none
  | some reply => (reply.encodeSigned r.key).map some

/-- The reply to a datagram from `source`; one with a wrong FINGERPRINT is refused. -/
def handle (r : Responder) (raw : Bytes) (source : Address) : Except Error (Option Bytes) := do
  let request ← Message.decode raw
  if (request.attribute? .fingerprint).isSome && !verifyFingerprint raw then
    throw .fingerprintMismatch
  r.respond request source

/-- A description without the password. -/
def describe (r : Responder) : String :=
  let software :=
    match r.software with
    | none => "None"
    | some text => "Some(" ++ String.ofList (Text.Quoted.string text.toList) ++ ")"
  "StunResponder \x7b software: " ++ software ++ ", .. \x7d"

end Responder

end MediaSocket.Stun
