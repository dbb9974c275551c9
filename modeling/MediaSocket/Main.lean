import MediaSocket.CommandLine.Run
import MediaSocket.Stun.Password
import Std.Async.Signal
import Std.Async.Timer
import Std.Async.UDP

/-!
The program on real sockets. What it says and does is decided by `CommandLine.opening` and
`Gateway`; here files are read, lines are printed, and datagrams are received and sent.
-/

namespace MediaSocket.CommandLine

open Std.Async
open Std.Net

/-! ### Texts -/

def fileErrorText : IO.Error → String
  | .noFileOrDirectory .. => "No such file or directory (os error 2)"
  | .permissionDenied .. => "Permission denied (os error 13)"
  | .inappropriateType .. => "Is a directory (os error 21)"
  | e => toString e

/-- The content of a file, or why it cannot be read. -/
def contentOf (path : String) : IO (Except String String) := do
  try
    match String.fromUTF8? (← IO.FS.readBinFile path) with
    | some text => return .ok text
    | none => return .error "stream did not contain valid UTF-8"
  catch e => return .error (fileErrorText e)

/-- A password from the random bytes of the system. -/
partial def freshPassword : IO String := do
  match Stun.Password.generate? (← IO.getRandomBytes 64).toList with
  | some password => return password
  | none => freshPassword

def printLog (log : Log.Options) (filter : Option String) (events : List Log.Event) : IO Unit := do
  let time := (← Std.Time.DateTime.now).toISO8601String
  for line in log.lines filter events do
    if log.json then IO.println ("\x7b\"timestamp\":\"" ++ time ++ "\"," ++ line.drop 1)
    else IO.println (time ++ " " ++ line)
  (← IO.getStdout).flush

/-! ### Sockets -/

/-- An address for the sockets of the system, which know no scopes. -/
def socketAddress : Address → SocketAddress
  | .v4 ip port => .v4 ⟨⟨ip.octets⟩, port⟩
  | .v6 ip port _ _ => .v6 ⟨⟨Vector.ofFn fun i => ip.groups.getD i 0⟩, port⟩

def addressOf : SocketAddress → Address
  | .v4 a => .v4 ⟨a.addr.octets⟩ a.port
  | .v6 a => .v6 (.ofGroups a.addr.segments.toList) a.port 0 0

structure Live where
  gateway : Gateway
  socket : UDP.Socket
  /-- The sockets of relay sessions, by their numbers. -/
  sessions : List (Nat × UDP.Socket)
  /-- When the next round of maintenance is due. -/
  nextTick : Time
  /-- When idle sessions are closed next. -/
  nextReap : Time

/-- Send a datagram; one that cannot be sent is lost. -/
def transmit (socket : UDP.Socket) (payload : Bytes) (target : Option SocketAddress) :
    Async Unit := do
  try socket.send (ByteArray.mk payload.toArray) target
  catch _ => return ()

/-- The socket of a relay session, and the gateway with it. -/
def Live.session (l : Live) (number : Nat) : IO (Live × UDP.Socket) := do
  match l.sessions.lookup number with
  | some socket => return (l, socket)
  | none =>
    let socket ← UDP.Socket.mk
    socket.bind (socketAddress l.gateway.relay.localAddress)
    socket.connect (socketAddress l.gateway.relay.server)
    return ({ l with sessions := (number, socket) :: l.sessions }, socket)

def Live.perform (l : Live) : Gateway.Output → Async Live
  | .peer w => do
    transmit l.socket w.payload (some (socketAddress w.target))
    return l
  | .server sent => do
    let (l, socket) ← l.session sent.socket
    transmit socket sent.record none
    return l

/-- The gateway without sockets of sessions that are closed. -/
def Live.release (l : Live) : Live :=
  let isOpen (number : Nat) := l.gateway.relay.sessions.entries.any fun e => e.2.socket == number
  { l with sessions := l.sessions.filter fun (number, _) => isOpen number }

/-- How long the program waits for a datagram, in milliseconds, before it looks at the clock. -/
def Live.patience (l : Live) : Nat := min l.gateway.dispatcher.config.tickIntervalMs.toNat 100

/-- The next datagram, or nothing if none comes for a while. -/
def Live.next (l : Live) : Async (Option Gateway.Arrival) := do
  let timer ← Selector.sleep (.ofNat l.patience)
  let silence : Selectable (Option Gateway.Arrival) := .case timer fun _ => return none
  let size := l.gateway.dispatcher.config.recvBufferSize
  let incoming : Selectable (Option Gateway.Arrival) :=
    .case (l.socket.recvSelector size) fun (payload, source) =>
      return source.map fun a => .peer (addressOf a) payload.toList
  let replies : List (Selectable (Option Gateway.Arrival)) :=
    l.sessions.map fun (number, socket) =>
      .case (socket.recvSelector (UInt64.ofNat Relay.replyLimit)) fun (payload, _) =>
        return some (.server number payload.toList)
  Selectable.one (silence :: incoming :: replies).toArray

def Live.handle (l : Live) (now : Time) (a : Gateway.Arrival) : Async Live := do
  let (gateway, outputs) := l.gateway.handle Network.connected now a
  outputs.foldlM Live.perform { l with gateway }

/-- The gateway after the maintenance that is due. -/
def Live.maintain (l : Live) (now : Time) : Live :=
  let config := l.gateway.dispatcher.config
  let l :=
    if now < l.nextTick then l
    else { l with gateway := l.gateway.tick now, nextTick := now + config.tickInterval }
  if now < l.nextReap then l
  else { l with gateway := l.gateway.reap now, nextReap := now + config.idleTimeout.getD 0 }

partial def Live.serve (l : Live) (interrupt : AsyncTask Int) : Async Live := do
  if ← IO.hasFinished interrupt then return l
  let arrival ← try l.next catch _ => pure none
  let now ← IO.monoNanosNow
  let l ←
    match arrival with
    | some a => l.handle now a
    | none => pure l
  Live.serve (l.maintain now).release interrupt

/-- The host as it is before any socket is bound: with the file that the arguments name. -/
def hostFor (arguments : List String) : IO Host := do
  let path :=
    match Arguments.of arguments with
    | .ok a => a.config
    | .error _ => none
  let content ←
    match path with
    | some path => contentOf path
    | none => pure (.ok "")
  return {
    network := .connected, fileText := fun _ => content, logFilter := ← IO.getEnv "RUST_LOG",
    freePort := 0, isHeld := fun _ => false, generatedPassword := ← freshPassword }

/-- A socket bound to an address, and the host as this shows it. -/
def bindOn (host : Host) (address : Address) : IO (Option UDP.Socket × Host) := do
  let socket ← UDP.Socket.mk
  try
    socket.bind (socketAddress address)
    let bound := addressOf (← socket.getSockName)
    return (some socket, { host with freePort := bound.port })
  catch
    | .resourceBusy .. => return (none, { host with isHeld := fun _ => true })
    | _ => return (none, { host with network := { host.network with binds := fun _ => false } })

/-- Report a failure or a text that was asked for; the exit code. -/
def reportEnd (host : Host) (arguments : List String) : IO UInt32 := do
  let outcome := run arguments host
  match opening arguments host with
  | .failed (some log) events _ | .crashed log events => printLog log host.logFilter events
  | _ => outcome.output.forM IO.println
  IO.eprint outcome.errors
  if outcome.exitCode = 2 then IO.eprintln "\n\nFor more information, try '--help'."
  return UInt32.ofNat outcome.exitCode

def execute (arguments : List String) : IO UInt32 := do
  let host ← hostFor arguments
  match opening arguments host with
  | .running _ r =>
    let (socket, host) ← bindOn host r.bound
    match socket, opening arguments host with
    | some socket, .running events r =>
      printLog r.log host.logFilter events
      let interrupt ← (← Signal.Waiter.mk .sigint true).wait
      let live : Live := ⟨r.gateway, socket, [], 0, 0⟩
      let live ← (live.serve interrupt).block
      printLog r.log host.logFilter ({ r with gateway := live.gateway } : Running).close.2
      return 0
    | _, _ => reportEnd host arguments
  | _ => reportEnd host arguments

end MediaSocket.CommandLine

def main (arguments : List String) : IO UInt32 :=
  MediaSocket.CommandLine.execute arguments
