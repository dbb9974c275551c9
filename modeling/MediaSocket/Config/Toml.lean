import MediaSocket.Address.Reader
import MediaSocket.Config
import MediaSocket.Toml.Document

/-!
Settings as a TOML document. Every key may be left out and stands for its default then; keys that
are no setting are passed over. A document is written with one line per setting.
-/

namespace MediaSocket.Config

open Toml (Value Entries)

/-! ### Reading -/

/-- What a value says, for a setting that is a text. -/
def asText : Value → Option String
  | .string s => some s
  | _ => none

/-- What a value says, for a setting that is a whole number below `bound`. -/
def asNumber (bound : Nat) : Value → Option Nat
  | .integer n => if 0 ≤ n ∧ n.toNat < bound then some n.toNat else none
  | _ => none

def asWord (v : Value) : Option UInt64 :=
  (asNumber 18446744073709551616 v).map UInt64.ofNat

def isEmpty : Value → Bool
  | .array items => items.isEmpty
  | .table _ entries => entries.isEmpty
  | _ => false

/-- What a value says, for a setting that is one of some names: the name, or a table with the name
as its only key and nothing under it. -/
def asChoice {α : Type} (names : List (String × α)) : Value → Option α
  | .string s => Table.find s names
  | .table _ [(name, v)] => if isEmpty v then Table.find name names else none
  | _ => none

def asProfiles : Value → Option (List Srtp.Profile)
  | .array items => items.mapM fun v => (asNumber 65536 v).map fun n => .ofCode (UInt16.ofNat n)
  | _ => none

def widthNames : List (String × IdWidth) := [("wide", .wide), ("narrow", .narrow)]

def policyNames : List (String × Srtp.Policy) :=
  [("broadcast_exclusion", .broadcastExclusion), ("unicast", .unicast)]

def setting {α : Type} (es : Entries) (key : String) (read : Value → Option α) (absent : α) :
    Option α :=
  match Table.find key es with
  | none => some absent
  | some v => read v

def ofEntries? (es : Entries) : Option Config := do
  let c : Config := {}
  let bindIp ← setting es "bind_ip" (fun v => (asText v).bind Ip.ofText?) c.bindIp
  let queueDepth ← setting es "queue_depth" asWord c.queueDepth
  let tickIntervalMs ← setting es "tick_interval_ms" asWord c.tickIntervalMs
  let recvBufferSize ← setting es "recv_buffer_size" asWord c.recvBufferSize
  let idWidth ← setting es "association_id_width" (asChoice widthNames) c.idWidth
  let srtpPolicy ← setting es "srtp_policy" (asChoice policyNames) c.srtpPolicy
  let profiles ← setting es "protection_profiles" asProfiles c.profiles
  let icePassword ← setting es "ice_password" (fun v => (asText v).map some) none
  let software ← setting es "software" (fun v => (asText v).map some) none
  let idleTimeoutSecs ← setting es "idle_timeout_secs" (fun v => (asWord v).map some) none
  return { bindIp, queueDepth, tickIntervalMs, recvBufferSize, idWidth, srtpPolicy, profiles,
           icePassword, software, idleTimeoutSecs }

/-- What is said of a document that does not describe settings. -/
def invalidDocument : String := "Invalid dispatcher config"

/-- The settings in a document, all of them in their ranges. -/
def ofToml (document : String) : Except Error Config :=
  match (Entries.ofText? document).bind ofEntries? with
  | none => .error (.config invalidDocument)
  | some c => c.validate.map fun _ => c

/-! ### Writing -/

def nameOf {α : Type} [DecidableEq α] (names : List (String × α)) (a : α) : String :=
  ((names.find? fun entry => entry.2 = a).map Prod.fst).getD ""

def textValue (s : String) : List Char := Toml.Quote.write s.toList

/-- A number as a TOML value, which has 63 bits and a sign. -/
def wordValue (n : UInt64) : Except Error (List Char) :=
  if n.toNat < 9223372036854775808 then .ok (Text.decimal n.toNat)
  else .error (.config "out-of-range value for u64 type")

def profilesValue (ps : List Srtp.Profile) : List Char :=
  '[' :: [',', ' '].intercalate (ps.map fun p => Text.decimal p.code.toNat) ++ [']']

def line (key : String) (value : List Char) : List Char :=
  key.toList ++ ' ' :: '=' :: ' ' :: value ++ ['\n']

def lineIf (key : String) (value : Option (List Char)) : List Char :=
  (value.map (line key)).getD []

def toToml (c : Config) : Except Error String := do
  let queueDepth ← wordValue c.queueDepth
  let tickIntervalMs ← wordValue c.tickIntervalMs
  let recvBufferSize ← wordValue c.recvBufferSize
  let idleTimeoutSecs ←
    match c.idleTimeoutSecs with
    | none => .ok none
    | some n => (wordValue n).map some
  return String.ofList
    (line "bind_ip" (textValue c.bindIp.text) ++
      line "queue_depth" queueDepth ++
      line "tick_interval_ms" tickIntervalMs ++
      line "recv_buffer_size" recvBufferSize ++
      line "association_id_width" (textValue (nameOf widthNames c.idWidth)) ++
      line "srtp_policy" (textValue (nameOf policyNames c.srtpPolicy)) ++
      line "protection_profiles" (profilesValue c.profiles) ++
      lineIf "ice_password" (c.icePassword.map textValue) ++
      lineIf "software" (c.software.map textValue) ++
      lineIf "idle_timeout_secs" idleTimeoutSecs)

end MediaSocket.Config
