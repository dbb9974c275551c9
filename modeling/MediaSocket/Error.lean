import MediaSocket.Association.Id
import MediaSocket.Packet
import MediaSocket.Stun.Error

/-! Why a call on the dispatcher, the relay or the configuration fails. -/

namespace MediaSocket

inductive Error where
  /-- The socket could not be bound to `port`. -/
  | bind (port : UInt16) (reason : String)
  /-- No peer with this id is registered. -/
  | unknownClient (id : AssociationId)
  /-- What was to be sent to a peer is no DTLS record. -/
  | notDtls (found : PacketClass)
  | notListening
  | alreadyListening
  | network (reason : String)
  | stun (cause : Stun.Error)
  | tunnel (reason : String)
  | config (reason : String)
  deriving DecidableEq, Repr

namespace Error

def message : Error → String
  | .bind port reason => s!"Failed to bind UDP socket on port {port}: {reason}"
  | .unknownClient id => s!"Unknown client [{id.text}]"
  | .notDtls found => s!"Send called with non-DTLS packet (classified as {found.text})"
  | .notListening => "Dispatcher is not listening"
  | .alreadyListening => "Dispatcher is already listening"
  | .network reason => "I/O error: " ++ reason
  | .stun cause => "STUN error: " ++ cause.message
  | .tunnel reason => "Tunnel error: " ++ reason
  | .config reason => "Configuration error: " ++ reason

/-- Whether the caller of a send is to blame. -/
def isContractViolation : Error → Bool
  | .unknownClient _ | .notDtls _ => true
  | _ => false

end Error

end MediaSocket
