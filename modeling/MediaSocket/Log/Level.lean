import MediaSocket.Text.Numeral

/-! Log levels, by name or by number. -/

namespace MediaSocket.Log

inductive Level where
  | error
  | warn
  | info
  | debug
  | trace
  deriving DecidableEq, Repr

namespace Level

/-- How many levels are at least as important. -/
def rank : Level → Nat
  | .error => 1
  | .warn => 2
  | .info => 3
  | .debug => 4
  | .trace => 5

def name : Level → String
  | .error => "error"
  | .warn => "warn"
  | .info => "info"
  | .debug => "debug"
  | .trace => "trace"

def label : Level → String
  | .error => "ERROR"
  | .warn => "WARN"
  | .info => "INFO"
  | .debug => "DEBUG"
  | .trace => "TRACE"

def all : List Level := [.error, .warn, .info, .debug, .trace]

end Level

/-- A number with a plus sign or without, of at most 64 bits. -/
def unsigned? (text : List Char) : Option Nat :=
  let digits := if text.head? = some '+' then text.drop 1 else text
  Text.whole (Text.numeral ⟨10, none, true, 18446744073709551616⟩) digits

/-- The level with this name, in any case, or with this rank. -/
def Level.ofText? (text : String) : Option Level :=
  match unsigned? text.toList with
  | some n => Level.all.find? fun l => l.rank == n
  | none => Level.all.find? fun l => l.name.toList == text.toList.map Char.toLower

end MediaSocket.Log
