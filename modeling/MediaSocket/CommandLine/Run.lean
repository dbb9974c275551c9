import MediaSocket.CommandLine.Arguments
import MediaSocket.Config.Toml
import MediaSocket.Gateway
import MediaSocket.Log

/-!
A run of the program: it reads its arguments and settings, opens the log, the relay and the socket,
waits until it is interrupted, and closes everything again.
-/

namespace MediaSocket

/-- Why an error came about, from the nearest cause on. -/
def Error.causes : Error → List String
  | .bind _ reason => [reason]
  | .network reason => [reason]
  | .stun cause => [cause.message]
  | _ => []

namespace Config

/-- The settings in a file; reading it may have failed for a reason. -/
def ofFile (path : String) (content : Except String String) : Except Error Config :=
  match content with
  | .error reason => .error (.config s!"Cannot read {path}: {reason}")
  | .ok document => ofToml document

end Config

namespace CommandLine

/-- What a run finds around it. -/
structure Host where
  network : Network
  /-- The content of a file, or why it cannot be read. -/
  fileText : String → Except String String
  /-- The log filter of the environment. -/
  logFilter : Option String
  /-- A port that nobody holds. -/
  freePort : UInt16
  /-- Whether somebody holds a port. -/
  isHeld : UInt16 → Bool
  /-- The password that signs replies if the settings give none. -/
  generatedPassword : String

structure Failure where
  doing : Option String
  error : Error

/-- What was being done, the error and its causes, one after the other. -/
def Failure.chain (f : Failure) : List String :=
  f.doing.toList ++ f.error.message :: f.error.causes

/-- A text on lines of which all but the first are indented. -/
def indented (indent text : String) : String := ("\n" ++ indent).intercalate (text.splitOn "\n")

/-- Causes on lines of their own, with numbers if there is more than one. -/
def causesText : List String → String
  | [] => ""
  | [cause] => "\n\nCaused by:\n    " ++ indented "    " cause
  | causes =>
    let numbered := causes.mapIdx fun i cause => s!"\n    {i}: " ++ indented "       " cause
    "\n\nCaused by:" ++ String.join numbered

/-- What is said of a failure: the outermost message, then the causes. -/
def Failure.report (f : Failure) : String :=
  "Error: " ++ f.chain.headD "" ++ causesText (f.chain.drop 1) ++ "\n"

structure Running where
  gateway : Gateway
  /-- Where the socket is bound. -/
  bound : Address
  log : Log.Options

inductive Opening where
  /-- The arguments ask for a text, or are refused. -/
  | stopped (s : Stop)
  /-- Something failed, after some events. -/
  | failed (log : Option Log.Options) (events : List Log.Event) (f : Failure)
  /-- The queue or the timer could not be made. -/
  | crashed (log : Log.Options) (events : List Log.Event)
  | running (events : List Log.Event) (r : Running)

/-- An event of a part of the program. -/
def event (part message : String) : Log.Event := ⟨.info, part, message⟩

def relayPart : String := "rvoip_media_mux::tunnel::udp"

def dispatcherPart : String := "rvoip_media_mux::dispatcher"

def routerPart : String := "rvoip_media_mux::dispatcher::router"

def mainPart : String := "media_mux"

def settings (a : Arguments) (host : Host) : Except Failure Config :=
  match a.config with
  | none => .ok {}
  | some path =>
    (Config.ofFile path (host.fileText path)).mapError fun e => ⟨some s!"loading {path}", e⟩

def opening (arguments : List String) (host : Host) : Opening :=
  match Arguments.of arguments with
  | .error s => .stopped s
  | .ok a =>
    match Log.levelOf a.logLevel with
    | .error e => .failed none [] ⟨none, e⟩
    | .ok level =>
      let log : Log.Options := { level, json := a.json }
      let events := [log.startEvent]
      match settings a host with
      | .error f => .failed log events f
      | .ok config =>
        match Relay.connectTo a.keyServer with
        | .error e => .failed log events ⟨some s!"resolving key server {a.keyServer}", e⟩
        | .ok relay =>
          let server := relay.server.text
          let events := events ++ [event relayPart s!"Relaying DTLS to key server at {server}"]
          match Dispatcher.new config host.generatedPassword with
          | .error e => .failed log events ⟨none, e⟩
          | .ok dispatcher =>
            match dispatcher.listen host.network a.port host.freePort (host.isHeld a.port) with
            | .refused e => .failed log events ⟨none, e⟩
            | .crashed => .crashed log events
            | .started dispatcher =>
              let bound := dispatcher.socket.getD (.mk config.bindIp a.port)
              .running
                (events ++
                  [event dispatcherPart s!"Media dispatcher listening on {bound.text}",
                   event mainPart s!"Key server: {server}",
                   event mainPart s!"SRTP policy: {config.srtpPolicy.describe}"])
                ⟨⟨dispatcher, relay.attach true⟩, bound, log⟩

/-- Close everything after an interruption: what is left, and the events. -/
def Running.close (r : Running) : Gateway × List Log.Event :=
  (⟨r.gateway.dispatcher.stop, r.gateway.relay.stop⟩,
    [event mainPart "Shutting down",
     ⟨.trace, routerPart, "Receive task terminated"⟩,
     ⟨.trace, routerPart, "Dispatch task terminated"⟩,
     event dispatcherPart s!"Media dispatcher on {r.bound.text} stopped",
     event relayPart s!"UDP forwarder to {r.gateway.relay.server.text} stopped"])

structure Outcome where
  exitCode : Nat
  /-- Whether the program waited to be interrupted. -/
  interrupted : Bool
  output : List String
  errors : String

/-- What a run shows that is interrupted as soon as it waits. -/
def run (arguments : List String) (host : Host) : Outcome :=
  let shown (log : Log.Options) (events : List Log.Event) := log.lines host.logFilter events
  match opening arguments host with
  | .stopped .help => ⟨0, false, helpLines, ""⟩
  | .stopped .version => ⟨0, false, [versionText], ""⟩
  | .stopped (.refused r) => ⟨2, false, [], r.message⟩
  | .failed none _ f => ⟨1, false, [], f.report⟩
  | .failed (some log) events f => ⟨1, false, shown log events, f.report⟩
  | .crashed log events => ⟨134, false, shown log events, ""⟩
  | .running events r => ⟨0, true, shown r.log (events ++ r.close.2), ""⟩

end CommandLine

end MediaSocket
