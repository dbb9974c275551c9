import MediaSocket.Error
import MediaSocket.Srtp.Policy
import MediaSocket.Stun.Responder

/-! What a dispatcher can be told: the settings, their defaults and the values they may take. -/

namespace MediaSocket

structure Config where
  /-- The local host to bind; the port is given when listening starts. -/
  bindIp : Ip := .v4 .unspecified
  /-- How many datagrams may wait between reception and dispatch. -/
  queueDepth : UInt64 := 10
  /-- The time between two rounds of maintenance, in milliseconds. -/
  tickIntervalMs : UInt64 := 10
  /-- The number of bytes kept of a datagram. -/
  recvBufferSize : UInt64 := 2048
  idWidth : IdWidth := .wide
  srtpPolicy : Srtp.Policy := .broadcastExclusion
  /-- The profiles offered with every ClientHello. -/
  profiles : List Srtp.Profile := []
  /-- The password that signs STUN replies; without one it is generated. -/
  icePassword : Option String := none
  software : Option String := none
  /-- After how many seconds of silence a peer is forgotten; never if absent. -/
  idleTimeoutSecs : Option UInt64 := none
  deriving DecidableEq, Repr

namespace Config

/-- A setting outside its range. -/
inductive Fault where
  | queueDepth
  | tickInterval
  | recvBufferSize (size : UInt64)
  | icePassword (length : Nat)
  | software (length : Nat)
  | idleTimeout
  deriving DecidableEq, Repr

def Fault.message : Fault → String
  | .queueDepth => "queue_depth must be at least 1"
  | .tickInterval => "tick_interval_ms must be at least 1"
  | .recvBufferSize size => s!"recv_buffer_size must be between 20 and 65535, got {size}"
  | .icePassword length => s!"ice_password must be 22 to 256 characters, got {length}"
  | .software length => s!"software must be at most 763 bytes, got {length}"
  | .idleTimeout => "idle_timeout_secs must be at least 1"

/-- The first setting outside its range, in the order of the settings. -/
def fault? (c : Config) : Option Fault :=
  if c.queueDepth = 0 then some .queueDepth
  else if c.tickIntervalMs = 0 then some .tickInterval
  else if c.recvBufferSize < 20 ∨ 65535 < c.recvBufferSize then
    some (.recvBufferSize c.recvBufferSize)
  else
    match c.icePassword.filter fun p => !Stun.passwordFits p with
    | some password => some (.icePassword password.length)
    | none =>
      match c.software.filter fun s => !Stun.softwareFits s with
      | some software => some (.software software.utf8ByteSize)
      | none => if c.idleTimeoutSecs = some 0 then some .idleTimeout else none

def validate (c : Config) : Except Error Unit :=
  match c.fault? with
  | none => .ok ()
  | some fault => .error (.config fault.message)

/-- The time between two rounds of maintenance. -/
def tickInterval (c : Config) : Span := .milliseconds c.tickIntervalMs.toNat

/-- After how much silence a peer is forgotten. -/
def idleTimeout (c : Config) : Option Span := c.idleTimeoutSecs.map fun s => .seconds s.toNat

/-- The least number of units that cover a span, or the greatest 64-bit number if there are
more. -/
def unitsFor (span unit : Span) : UInt64 :=
  UInt64.ofNat (min ((span + unit - 1) / unit) 18446744073709551615)

/-- The settings with a time between rounds of maintenance, rounded up to milliseconds. -/
def withTickInterval (c : Config) (span : Span) : Config :=
  { c with tickIntervalMs := unitsFor span (.milliseconds 1) }

/-- The settings with an idle timeout, rounded up to seconds. -/
def withIdleTimeout (c : Config) (span : Span) : Config :=
  { c with idleTimeoutSecs := some (unitsFor span (.seconds 1)) }

end Config

end MediaSocket
