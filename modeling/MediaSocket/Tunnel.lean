import MediaSocket.Association.Id
import MediaSocket.Srtp.Profile

/-! DTLS records on their way to the key server: a ClientHello is sent with the protection
profiles on offer, every other record as it is. -/

namespace MediaSocket

/-- What the tunnel to the key server is asked to carry. -/
inductive TunnelCall where
  | send (id : AssociationId) (record : Bytes)
  | sendWithProfiles (id : AssociationId) (record : Bytes) (profiles : List Srtp.Profile)
  deriving DecidableEq, Repr

namespace TunnelCall

def id : TunnelCall → AssociationId
  | .send id _ | .sendWithProfiles id _ _ => id

def record : TunnelCall → Bytes
  | .send _ record | .sendWithProfiles _ record _ => record

end TunnelCall

/-- Whether a record is a ClientHello: a handshake record whose message, after the 13 bytes of the
record header, is of type 1. -/
def isClientHello (record : Bytes) : Bool :=
  record[0]? == some 0x16 && record[13]? == some 0x01

/-- How a record from a peer is handed to the tunnel, with the profiles on offer. -/
def TunnelCall.of (offer : List Srtp.Profile) (id : AssociationId) (record : Bytes) : TunnelCall :=
  if isClientHello record then .sendWithProfiles id record offer else .send id record

/-- A description of a tunnel's user with the profiles on offer. -/
def describeOffer (offer : List Srtp.Profile) : String :=
  let profiles := ", ".intercalate (offer.map Srtp.Profile.describe)
  "DtlsRouter \x7b profiles: [" ++ profiles ++ "], .. \x7d"

end MediaSocket
