import MediaSocket.Error
import MediaSocket.Log.Filter
import MediaSocket.Text.Json

/-! Logging: what an application asks for, and the lines in which events are written. -/

namespace MediaSocket.Log

/-- Something that happened, and in which part of the program. -/
structure Event where
  level : Level
  target : String
  message : String
  deriving DecidableEq, Repr

namespace Event

/-- The names of the fields of events. -/
def fields : List String := ["message"]

def line (e : Event) : String := s!"{e.level.label} {e.target}: {e.message}"

def json (e : Event) : String :=
  let quoted (s : String) := String.ofList (Text.Json.string s.toList)
  "\x7b\"level\":" ++ quoted e.level.label ++ ",\"fields\":\x7b\"message\":" ++ quoted e.message ++
    "\x7d,\"target\":" ++ quoted e.target ++ "\x7d"

end Event

structure Options where
  /-- Up to which level the program's own events are written. -/
  level : Level
  /-- Whether events are written as JSON. -/
  json : Bool := false
  /-- Whether events are written with the place in the source. -/
  fileInfo : Bool := false
  /-- Whether entering and leaving spans is written. -/
  spans : Bool := false
  /-- The name in the first line. -/
  appName : String := "media-mux"
  deriving DecidableEq, Repr

namespace Options

/-- The filter of the options alone: warnings of everybody, and the program's own events up to its
level. -/
def ownFilter (o : Options) : Filter :=
  .ofDirectives
    [{ threshold := some .warn },
     { target := some "rvoip_media_mux".toList, threshold := some o.level },
     { target := some "media_mux".toList, threshold := some o.level }]

/-- The filter in force: the one that the environment asks for, if it describes one. -/
def filter (o : Options) (environment : Option String) : Filter :=
  ((environment.bind Filter.ofText?).getD o.ownFilter)

def startEvent (o : Options) : Event :=
  ⟨.info, "rvoip_media_mux::logging", s!"Starting {o.appName} v0.1.0"⟩

/-- The lines for some events: those that pass the filter. -/
def lines (o : Options) (environment : Option String) (events : List Event) : List String :=
  let f := o.filter environment
  (events.filter fun e => f.passes e.level e.target Event.fields).map fun e =>
    if o.json then e.json else e.line

end Options

def levelOf (text : String) : Except Error Level :=
  match Level.ofText? text with
  | some level => .ok level
  | none => .error (.config ("Invalid log level: " ++ text))

/-- Open the log; there can be only one in a process. -/
def start (o : Options) (alreadyOpen : Bool) : Except Error Event :=
  if alreadyOpen then
    .error (.config ("Failed to install log subscriber: " ++
      "a global default trace dispatcher has already been set"))
  else .ok o.startEvent

end MediaSocket.Log
