import MediaSocket.Dispatcher
import Mathlib.Logic.Relation

/-!
Calls that start, use and stop a dispatcher at the same time. One lock lets `listen` and `stop` in
one after the other; the phase, the socket and the tasks are guarded one by one. Whoever waits for
`stop` may give up, and what the call has not done by then stays undone.
-/

namespace MediaSocket.Dispatcher

inductive Duty where
  | receiving
  | dispatching
  deriving DecidableEq, Repr

/-- How far a task has come. -/
inductive Progress where
  | absent
  | running
  | ended
  deriving DecidableEq, Repr

/-- A call under way, named for what it does next. -/
inductive Call where
  /-- `listen` waits for the lock. -/
  | listen
  /-- `listen` looks at the phase. -/
  | inspect
  /-- `listen` binds the socket. -/
  | bind
  /-- `listen` starts the tasks on its socket. -/
  | spawn
  /-- `listen` publishes the socket. -/
  | publish
  /-- `listen` enters the running phase and returns. -/
  | enter
  /-- `stop` waits for the lock. -/
  | stop
  /-- `stop` looks at the phase. -/
  | leave
  /-- `stop` sets the flag. -/
  | signal
  /-- `stop` takes over whatever tasks there are to wait for. -/
  | collect
  /-- `stop` waits for tasks, one after the other. -/
  | await (duties : List Duty)
  /-- `stop` takes the socket out. -/
  | unpublish
  /-- `stop` enters the stopped phase and returns. -/
  | exit
  /-- A send looks for the socket. -/
  | send
  /-- A send writes to the socket. -/
  | write
  deriving DecidableEq, Repr

def Call.Begins : Call → Prop
  | .listen | .stop | .send => True
  | _ => False

def Call.isLocked : Call → Bool
  | .listen | .stop | .send | .write => false
  | _ => true

def Call.holdsSocket : Call → Bool
  | .spawn | .publish | .write => true
  | _ => false

/-- Whether a caller can give up here: a `stop` that waits. -/
def Call.CanGiveUp : Call → Prop
  | .stop | .await _ => True
  | _ => False

structure Lifecycle where
  phase : Phase
  /-- Whether the tasks are to end. -/
  flag : Bool
  progress : Duty → Progress
  /-- The tasks that nobody waits for yet. -/
  uncollected : List Duty
  /-- Whether the socket is published. -/
  published : Bool
  calls : List Call

namespace Lifecycle

def fresh : Lifecycle := ⟨.idle, false, fun _ => .absent, [], false, []⟩

def isLocked (s : Lifecycle) : Bool := s.calls.any Call.isLocked

def Active (s : Lifecycle) : Prop := ∃ d, s.progress d = .running

def SocketHeld (s : Lifecycle) : Prop :=
  s.published ∨ s.Active ∨ ∃ c ∈ s.calls, c.holdsSocket

/-- A step of a call, and what is left of the call. A call that waits for something takes no step
before it is there. -/
inductive Act : Lifecycle → Call → Option Call → Lifecycle → Prop
  | listen {s : Lifecycle} (h : s.isLocked = false) : Act s .listen (some .inspect) s
  | inspect {s : Lifecycle} :
      Act s .inspect (if s.phase = .idle then some .bind else none) s
  | bind {s : Lifecycle} : Act s .bind (some .spawn) s
  /-- The socket cannot be bound. -/
  | bindFails {s : Lifecycle} : Act s .bind none s
  | spawn {s : Lifecycle} :
      Act s .spawn (some .publish)
        { s with progress := fun _ => .running, uncollected := [.receiving, .dispatching] }
  | publish {s : Lifecycle} : Act s .publish (some .enter) { s with published := true }
  | enter {s : Lifecycle} : Act s .enter none { s with phase := .running }
  | stop {s : Lifecycle} (h : s.isLocked = false) : Act s .stop (some .leave) s
  | leave {s : Lifecycle} :
      Act s .leave
        (if s.phase = .idle ∨ s.phase = .stopped then none else some .signal)
        { s with phase := if s.phase = .idle ∨ s.phase = .stopped then .stopped else .draining }
  | signal {s : Lifecycle} : Act s .signal (some .collect) { s with flag := true }
  | collect {s : Lifecycle} :
      Act s .collect (some (.await s.uncollected)) { s with uncollected := [] }
  | await {s : Lifecycle} {d : Duty} {ds : List Duty} (h : s.progress d = .ended) :
      Act s (.await (d :: ds)) (some (.await ds)) s
  | awaited {s : Lifecycle} : Act s (.await []) (some .unpublish) s
  | unpublish {s : Lifecycle} : Act s .unpublish (some .exit) { s with published := false }
  | exit {s : Lifecycle} : Act s .exit none { s with phase := .stopped }
  | send {s : Lifecycle} : Act s .send (if s.published then some .write else none) s
  | write {s : Lifecycle} : Act s .write none s

inductive Event where
  /-- A call begins. -/
  | begin (c : Call)
  /-- A call that is under way takes its next step. -/
  | act (c : Call)
  /-- A caller gives up. -/
  | giveUp (c : Call)
  /-- A task ends. -/
  | ends (d : Duty)
  deriving DecidableEq, Repr

/-- One event after which `t` is there instead of `s`. -/
inductive Step : Lifecycle → Event → Lifecycle → Prop
  | begin {s : Lifecycle} {c : Call} (h : c.Begins) :
      Step s (.begin c) { s with calls := s.calls ++ [c] }
  | act {s t : Lifecycle} {front back : List Call} {c : Call} {next : Option Call}
      (under : s.calls = front ++ c :: back) (h : Act s c next t) :
      Step s (.act c) { t with calls := front ++ next.toList ++ back }
  | giveUp {s : Lifecycle} {front back : List Call} {c : Call}
      (under : s.calls = front ++ c :: back) (h : c.CanGiveUp) :
      Step s (.giveUp c) { s with calls := front ++ back }
  /-- A task ends because the flag is set. -/
  | ends {s : Lifecycle} {d : Duty} (h : s.progress d = .running) (flag : s.flag = true) :
      Step s (.ends d)
        { s with progress := fun d' => if d' = d then .ended else s.progress d' }

/-- The events lead from one state to the other, in this order. -/
inductive Trace : Lifecycle → List Event → Lifecycle → Prop
  | nil {s : Lifecycle} : Trace s [] s
  | cons {s t u : Lifecycle} {e : Event} {events : List Event} (step : Step s e t)
      (rest : Trace t events u) : Trace s (e :: events) u

/-- Any number of events leads from `s` to `t`. -/
def Runs : Lifecycle → Lifecycle → Prop := Relation.ReflTransGen fun s t => ∃ e, Step s e t

/-- A caller gives up while a task that it waits for is running. -/
def Event.Deserts (s : Lifecycle) : Event → Prop
  | .giveUp (.await ds) => ∃ d ∈ ds, s.progress d = .running
  | _ => False

/-- Any number of events leads from `s` to `t`, and nobody deserts a task. -/
def RunsPatiently : Lifecycle → Lifecycle → Prop :=
  Relation.ReflTransGen fun s t => ∃ e, Step s e t ∧ ¬e.Deserts s

end Lifecycle

end MediaSocket.Dispatcher
