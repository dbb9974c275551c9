import MediaSocket.Dispatcher
import Mathlib.Logic.Relation

/-!
The two tasks of a running dispatcher. One reads datagrams into a queue of limited length, the
other takes them out of it and routes them, with rounds of maintenance between two packets. A flag
ends both, but no packet is left half routed.
-/

namespace MediaSocket.Dispatcher

/-- What the receiving task does next. -/
inductive Receiving where
  /-- It looks at the flag. -/
  | start
  /-- It waits for a datagram. -/
  | reading
  /-- It looks at the flag, with a packet in hand. -/
  | holding (p : Packet)
  /-- It waits for room in the queue. -/
  | offering (p : Packet)
  | ended
  deriving DecidableEq, Repr

/-- What the dispatching task does next. -/
inductive Dispatching where
  /-- It looks at the flag. -/
  | start
  /-- It waits for a packet or for the time of maintenance. -/
  | waiting
  /-- It carries out what came of a packet. -/
  | routing (rest : List Effect)
  | ended
  deriving DecidableEq, Repr

/-- The packet that the receiving task has read and not put into the queue. -/
def Receiving.inHand : Receiving → Option Packet
  | .holding p | .offering p => some p
  | _ => none

structure Pipeline where
  receiving : Receiving
  dispatching : Dispatching
  queue : List Packet
  /-- Whether the tasks are to end. -/
  flag : Bool
  registry : Registry
  /-- Every datagram that was read, with its source and as it arrived, in order. -/
  arrived : List (Address × Bytes)
  /-- Every packet that was read, in order. -/
  read : List Packet
  /-- Every packet that was taken for routing, in order. -/
  taken : List Packet
  /-- What was carried out, in order. -/
  done : List Effect

namespace Pipeline

def fresh (registry : Registry) : Pipeline :=
  ⟨.start, .start, [], false, registry, [], [], [], []⟩

/-- A step of one of the tasks, or of what is around them. -/
inductive Step (c : Config) (router : Router) : Pipeline → Pipeline → Prop
  /-- The receiving task ends if the flag is set. -/
  | look {s : Pipeline} (h : s.receiving = .start) :
      Step c router s { s with receiving := if s.flag then .ended else .reading }
  /-- A datagram is read. -/
  | read {s : Pipeline} {source : Address} {datagram : Bytes} (h : s.receiving = .reading) :
      Step c router s
        { s with
          receiving := .holding (packet c source datagram)
          arrived := s.arrived ++ [(source, datagram)]
          read := s.read ++ [packet c source datagram] }
  /-- The receiving task is woken without a datagram, by an error or by the flag. -/
  | wake {s : Pipeline} (h : s.receiving = .reading) :
      Step c router s { s with receiving := .start }
  /-- The receiving task ends if the flag is set, and drops its packet. -/
  | check {s : Pipeline} {p : Packet} (h : s.receiving = .holding p) :
      Step c router s { s with receiving := if s.flag then .ended else .offering p }
  /-- The packet is put into the queue. -/
  | push {s : Pipeline} {p : Packet} (h : s.receiving = .offering p)
      (room : s.queue.length < c.queueDepth.toNat) (taker : s.dispatching ≠ .ended) :
      Step c router s { s with receiving := .start, queue := s.queue ++ [p] }
  /-- The receiving task is woken while it waits for room. -/
  | recheck {s : Pipeline} {p : Packet} (h : s.receiving = .offering p) :
      Step c router s { s with receiving := .holding p }
  /-- Nobody will take the packet. -/
  | refuse {s : Pipeline} {p : Packet} (h : s.receiving = .offering p)
      (noTaker : s.dispatching = .ended) :
      Step c router s { s with receiving := .ended }
  /-- The dispatching task ends if the flag is set. -/
  | watch {s : Pipeline} (h : s.dispatching = .start) :
      Step c router s { s with dispatching := if s.flag then .ended else .waiting }
  /-- A round of maintenance. -/
  | tick {s : Pipeline} {now : Time} {maxIdle : Option Span} (h : s.dispatching = .waiting) :
      Step c router s
        { s with
          dispatching := .start
          registry := maxIdle.elim s.registry fun d => s.registry.prune d now }
  /-- A packet is taken out of the queue. -/
  | take {s : Pipeline} {net : Network} {p : Packet} {rest : List Packet} {now : Time}
      (h : s.dispatching = .waiting) (first : s.queue = p :: rest) :
      Step c router s
        { s with
          dispatching := .routing (router.route net s.registry now p).2
          queue := rest
          registry := (router.route net s.registry now p).1
          taken := s.taken ++ [p] }
  /-- The dispatching task is woken without a packet. -/
  | rewatch {s : Pipeline} (h : s.dispatching = .waiting) :
      Step c router s { s with dispatching := .start }
  /-- Nobody will put packets into the queue. -/
  | starve {s : Pipeline} (h : s.dispatching = .waiting) (noPacket : s.queue = [])
      (noGiver : s.receiving = .ended) :
      Step c router s { s with dispatching := .ended }
  /-- Something that came of a packet is carried out. -/
  | perform {s : Pipeline} {e : Effect} {rest : List Effect}
      (h : s.dispatching = .routing (e :: rest)) :
      Step c router s { s with dispatching := .routing rest, done := s.done ++ [e] }
  /-- A packet has been routed. -/
  | finish {s : Pipeline} (h : s.dispatching = .routing []) :
      Step c router s { s with dispatching := .start }
  /-- The flag is set. -/
  | signal {s : Pipeline} : Step c router s { s with flag := true }

/-- Any number of steps leads from `s` to `t`. -/
def Runs (c : Config) (router : Router) : Pipeline → Pipeline → Prop :=
  Relation.ReflTransGen (Step c router)

end Pipeline

end MediaSocket.Dispatcher
