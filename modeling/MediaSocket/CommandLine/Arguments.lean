import MediaSocket.Text.Numeral
import MediaSocket.Text.Plain

/-!
The arguments of the program. Options have a long name, most of them a short one too; a value
follows as the next argument, or after `=`, or right after a short name. Arguments are read from
left to right, and the first that is wrong is reported; the value of an option counts as read when
the next option comes.
-/

namespace MediaSocket.CommandLine

structure Arguments where
  /-- The UDP port that all peers share. -/
  port : UInt16 := 5004
  /-- The path of a file with settings. -/
  config : Option String := none
  keyServer : String := "127.0.0.1:4433"
  logLevel : String := "info"
  json : Bool := false
  deriving DecidableEq, Repr

inductive Opt where
  | port
  | config
  | keyServer
  | logLevel
  | json
  | help
  | version
  deriving DecidableEq, Repr

namespace Opt

def all : List Opt := [.port, .config, .keyServer, .logLevel, .json, .help, .version]

def longName : Opt → String
  | .port => "port"
  | .config => "config"
  | .keyServer => "key-server"
  | .logLevel => "log-level"
  | .json => "json"
  | .help => "help"
  | .version => "version"

def shortName : Opt → Option Char
  | .port => some 'p'
  | .config => some 'c'
  | .keyServer => some 'k'
  | .logLevel => some 'l'
  | .json => none
  | .help => some 'h'
  | .version => some 'V'

/-- What the value of an option is called, if it has one. -/
def valueName : Opt → Option String
  | .port => some "PORT"
  | .config => some "CONFIG"
  | .keyServer => some "KEY_SERVER"
  | .logLevel => some "LOG_LEVEL"
  | .json | .help | .version => none

def purpose : Opt → String
  | .port => "UDP port shared by all peers [default: 5004]"
  | .config => "TOML configuration file"
  | .keyServer => "Key-distribution server receiving the DTLS traffic [default: 127.0.0.1:4433]"
  | .logLevel => "Log level [default: info]"
  | .json => "Log as JSON lines"
  | .help => "Print help"
  | .version => "Print version"

def text (o : Opt) : String :=
  "--" ++ o.longName ++ ((o.valueName.map fun v => s!" <{v}>").getD "")

def helpLine (o : Opt) : String :=
  let short := (o.shortName.map fun c => "-" ++ String.singleton c ++ ", ").getD "    "
  let names := short ++ o.text
  "  " ++ names ++ String.ofList (List.replicate (31 - names.length) ' ') ++ o.purpose

end Opt

inductive Refusal where
  | unexpectedArgument (argument : String)
  | missingValue (option : Opt)
  | invalidValue (value : String) (option : Opt) (reason : String)
  | unexpectedValue (value : String) (option : Opt)
  | repeated (option : Opt)
  deriving DecidableEq, Repr

def Refusal.reason : Refusal → String
  | .unexpectedArgument argument => s!"unexpected argument '{argument}' found"
  | .missingValue option => s!"a value is required for '{option.text}' but none was supplied"
  | .invalidValue value option reason => s!"invalid value '{value}' for '{option.text}': {reason}"
  | .unexpectedValue value option =>
    s!"unexpected value '{value}' for '{option.text}' found; no more were expected"
  | .repeated option => s!"the argument '{option.text}' cannot be used multiple times"

/-- What is said of refused arguments. Control sequences in them do not reach the terminal. -/
def Refusal.message (r : Refusal) : String :=
  "error: " ++ String.ofList (Text.Plain.shown r.reason.toList)

/-- How the reading of arguments ends early. -/
inductive Stop where
  | help
  | version
  | refused (r : Refusal)
  deriving DecidableEq, Repr

/-! ### Values -/

/-- The digits of a number in 64 bits, added to what was read before; `minus` counts down. -/
def readDigits (minus : Bool) (n : Int) : List Char → Except String Int
  | [] => .ok n
  | c :: rest =>
    match Text.digit? 10 c with
    | none => .error "invalid digit found in string"
    | some d =>
      let n := if minus then n * 10 - d else n * 10 + d
      if n < -9223372036854775808 then .error "number too small to fit in target type"
      else if 9223372036854775807 < n then .error "number too large to fit in target type"
      else readDigits minus n rest

/-- The whole number of 64 bits that a text stands for. -/
def readNumber (text : List Char) : Except String Int :=
  match text with
  | [] => .error "cannot parse integer from empty string"
  | [_] => readDigits false 0 text
  | c :: rest =>
    if c = '-' then readDigits true 0 rest
    else if c = '+' then readDigits false 0 rest
    else readDigits false 0 text

def readPort (text : String) : Except String UInt16 := do
  let n ← readNumber text.toList
  if 0 ≤ n ∧ n ≤ 65535 then return UInt16.ofNat n.toNat
  else throw s!"{n} is not in 0..=65535"

def Arguments.set (a : Arguments) (o : Opt) (value : String) : Except Stop Arguments :=
  match o with
  | .port =>
    match readPort value with
    | .ok port => .ok { a with port }
    | .error reason => .error (.refused (.invalidValue value o reason))
  | .config =>
    if value.isEmpty then .error (.refused (.missingValue o))
    else .ok { a with config := some value }
  | .keyServer => .ok { a with keyServer := value }
  | .logLevel => .ok { a with logLevel := value }
  | .json => .ok { a with json := true }
  | .help => .error .help
  | .version => .error .version

/-! ### Reading -/

structure Scan where
  arguments : Arguments := {}
  /-- The options that were read. -/
  seen : List Opt := []
  /-- The option that was read last, and its value if that has come. -/
  pending : Option (Opt × Option String) := none
  /-- Whether `--` has come. -/
  trailing : Bool := false

namespace Scan

/-- Take an option and its value as read. -/
def take (s : Scan) (o : Opt) (value : String) : Except Stop Scan :=
  if s.seen.contains o then .error (.refused (.repeated o))
  else (s.arguments.set o value).map fun arguments =>
    { s with arguments, seen := o :: s.seen, pending := none }

/-- Take the option that was read last as read. -/
def settle (s : Scan) : Except Stop Scan :=
  match s.pending with
  | none => .ok s
  | some (o, some value) => s.take o value
  | some (o, none) => .error (.refused (.missingValue o))

/-- Read an option, with the value that stands in the same argument. -/
def option (s : Scan) (o : Opt) (value : Option String) : Except Stop Scan := do
  let s ← s.settle
  match o.valueName, value with
  | some _, some value => s.take o value
  | some _, none => return { s with pending := some (o, none) }
  | none, _ => s.take o ""

/-- Read an argument with a long name, and the value after `=`. -/
def long (s : Scan) (name : String) (value : Option String) : Except Stop Scan :=
  match Opt.all.find? fun o => o.longName == name with
  | none => .error (.refused (.unexpectedArgument ("--" ++ name)))
  | some o =>
    match o.valueName, value with
    | none, some value => .error (.refused (.unexpectedValue value o))
    | _, _ => s.option o value

/-- Read short names that stand together; the first that takes a value takes all that follows. -/
def short (s : Scan) : List Char → Except Stop Scan
  | [] => .ok s
  | c :: rest =>
    match Opt.all.find? fun o => o.shortName == some c with
    | none => .error (.refused (.unexpectedArgument ("-" ++ String.singleton c)))
    | some o =>
      match o.valueName, rest with
      | none, _ => (s.option o none).bind fun s => s.short rest
      | some _, [] => s.option o none
      | some _, c :: rest' =>
        s.option o (some (String.ofList (if c = '=' then rest' else c :: rest')))

/-- Read an argument that is no option. -/
def plain (s : Scan) (argument : String) : Except Stop Scan :=
  match s.trailing, s.pending with
  | false, some (o, none) => .ok { s with pending := some (o, some argument) }
  | _, _ => .error (.refused (.unexpectedArgument argument))

def argument (s : Scan) (text : String) : Except Stop Scan :=
  if s.trailing then s.plain text
  else
    match text.toList with
    | ['-', '-'] => .ok { s with trailing := true }
    | '-' :: '-' :: rest =>
      let name := String.ofList (rest.takeWhile (· != '='))
      match rest.dropWhile (· != '=') with
      | [] => s.long name none
      | _ :: value => s.long name (some (String.ofList value))
    | '-' :: c :: rest => s.short (c :: rest)
    | _ => s.plain text

end Scan

/-- What the program is told by its arguments, unless they ask for a text or are refused. -/
def Arguments.of (arguments : List String) : Except Stop Arguments := do
  let s ← arguments.foldlM Scan.argument {}
  let s ← s.settle
  return s.arguments

/-! ### Texts -/

def versionText : String := "media-mux 0.1.0"

def helpLines : List String :=
  ["Single-socket DTLS/SRTP/STUN media dispatcher", "", "Usage: media-mux [OPTIONS]", "",
   "Options:"] ++ Opt.all.map Opt.helpLine

end MediaSocket.CommandLine
