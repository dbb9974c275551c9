import MediaSocket.Dispatcher
import Mathlib.Logic.Relation

/-!
Two dispatchers that are peers of each other. Anybody may put STUN datagrams on the way between them,
under the address of either; what a dispatcher writes to the other is on its way as well. Datagrams
may overtake each other and get lost.
-/

namespace MediaSocket.Dispatcher

inductive Side where
  | left
  | right
  deriving DecidableEq, Repr

def Side.other : Side → Side
  | .left => .right
  | .right => .left

/-- Whether a datagram says that it is a STUN request. -/
def asks (datagram : Bytes) : Bool := (Stun.Header.of datagram).messageClass == .request

structure Exchange where
  dispatcher : Side → Dispatcher
  /-- The datagrams under way, each with the side that it goes to. -/
  underWay : List (Side × Bytes)
  /-- Every datagram that somebody else has put on the way. -/
  begun : List Bytes
  /-- All that came of the datagrams that have arrived, in order. -/
  done : List Effect

namespace Exchange

/-- Two dispatchers before anything is under way between them. -/
def quiet (dispatcher : Side → Dispatcher) : Exchange := ⟨dispatcher, [], [], []⟩

/-- The datagrams among some effects that have been sent to an address. -/
def sentTo (target : Address) (effects : List Effect) : List Bytes :=
  effects.filterMap fun
    | .write w => if w.sent ∧ w.target = target then some w.payload else none
    | .tunnel _ => none

inductive Step (net : Network) (address : Side → Address) : Exchange → Exchange → Prop
  /-- Somebody puts a STUN datagram on the way to a side. -/
  | begin {s : Exchange} {side : Side} {datagram : Bytes}
      (stun : PacketClass.of datagram = .stun) :
      Step net address s
        { s with underWay := s.underWay ++ [(side, datagram)], begun := s.begun ++ [datagram] }
  /-- A datagram arrives, under the address of the other side. -/
  | arrive {s : Exchange} {front back : List (Side × Bytes)} {side : Side} {datagram : Bytes}
      {now : Time} {after : Dispatcher} {effects : List Effect}
      (under : s.underWay = front ++ (side, datagram) :: back)
      (received : (s.dispatcher side).receive net now (address side.other) datagram =
        (after, effects)) :
      Step net address s
        { s with
          dispatcher := fun x => if x = side then after else s.dispatcher x
          underWay :=
            front ++ back ++ (sentTo (address side.other) effects).map fun d => (side.other, d)
          done := s.done ++ effects }
  /-- A datagram gets lost. -/
  | lose {s : Exchange} {front back : List (Side × Bytes)} {lost : Side × Bytes}
      (under : s.underWay = front ++ lost :: back) :
      Step net address s { s with underWay := front ++ back }
  /-- A dispatcher is called, or serves another peer. -/
  | turn {s : Exchange} {side : Side} {after : Dispatcher} :
      Step net address s
        { s with dispatcher := fun x => if x = side then after else s.dispatcher x }

/-- Any number of steps leads from `s` to `t`. -/
def Runs (net : Network) (address : Side → Address) : Exchange → Exchange → Prop :=
  Relation.ReflTransGen (Step net address)

end Exchange

end MediaSocket.Dispatcher
