import MediaSocket.Association.Registry
import MediaSocket.Error
import MediaSocket.Network

/-! Where media goes: to every known peer but its sender, or back to the address registered for
its sender. -/

namespace MediaSocket.Srtp

inductive Policy where
  | broadcastExclusion
  | unicast
  deriving DecidableEq, Repr

namespace Policy

def describe : Policy → String
  | .broadcastExclusion => "BroadcastExclusion"
  | .unicast => "Unicast"

/-- Where a packet of `sender` goes; `none` if the policy needs a registered sender and there is
none. -/
def targets? (p : Policy) (r : Registry) (sender : AssociationId) : Option (List Address) :=
  match p with
  | .broadcastExclusion => some (r.addressesExcluding sender)
  | .unicast => (r.addressOf? sender).map fun a => [a]

/-- The writes that relay a packet of `sender`, from a socket that is bound to `source`. -/
def forward? (p : Policy) (net : Network) (source : Ip) (r : Registry) (sender : AssociationId)
    (payload : Bytes) : Option (List Write) :=
  (p.targets? r sender).map fun targets => targets.map fun a => net.write source a payload

end Policy

def delivered (writes : List Write) : Nat := writes.countP Write.sent

/-- Relay a packet of `sender`: how many writes succeed, and the writes. -/
def Policy.forward (p : Policy) (net : Network) (source : Ip) (r : Registry)
    (sender : AssociationId) (payload : Bytes) : Except Error Nat × List Write :=
  match p.forward? net source r sender payload with
  | some writes => (.ok (delivered writes), writes)
  | none => (.error (.unknownClient sender), [])

end MediaSocket.Srtp
