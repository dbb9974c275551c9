import MediaSocket.Address.Reader

/-!
The addresses that the text of a server stands for. Hosts are numbers here, in more notations than
the canonical one; names are not looked up.
-/

namespace MediaSocket

open Text

namespace Ipv4

/-- A number of 32 bits: in base 16 after `0x`, in base 8 after a zero, else in base 10. -/
def number : Reader Nat
  | '0' :: 'x' :: rest | '0' :: 'X' :: rest => numeral ⟨16, none, true, 4294967296⟩ rest
  | '0' :: rest => numeral ⟨8, none, true, 4294967296⟩ ('0' :: rest)
  | cs => numeral ⟨10, none, true, 4294967296⟩ cs

/-- Numbers with points between them, at most `limit` of them. -/
def numbers : Nat → Reader (List Nat)
  | 0, _ => none
  | limit + 1, cs => do
    let (n, rest) ← number cs
    match expect '.' rest with
    | none => return ([n], rest)
    | some rest =>
      let (more, rest) ← numbers limit rest
      return (n :: more, rest)

/-- The number of `room` bytes that some numbers give: one byte each, and the last one all bytes
that are left. -/
def joined? : Nat → List Nat → Option Nat
  | room, [n] => if n < 256 ^ room then some n else none
  | room + 1, n :: more => if n < 256 then (joined? room more).map (n * 256 ^ room + ·) else none
  | _, _ => none

/-- The host that one to four numbers stand for. -/
def ofNumbers? (cs : List Char) : Option Ipv4 := do
  let n ← joined? 4 (← whole (numbers 4) cs)
  return .ofBytes (Bytes.ofUInt32 (UInt32.ofNat n))

end Ipv4

namespace Address

inductive LookupError where
  /-- There is no colon between host and port. -/
  | noPort
  | badPort
  /-- The host is a name. -/
  | unknownHost
  deriving DecidableEq, Repr

def LookupError.message : LookupError → String
  | .noPort => "invalid socket address"
  | .badPort => "invalid port value"
  | .unknownHost => "failed to lookup address information: Temporary failure in name resolution"

/-- The text before the last colon and the text after it. -/
def splitLastColon (cs : List Char) : Option (List Char × List Char) :=
  let port := (cs.reverse.takeWhile (· != ':')).reverse
  if port.length = cs.length then none else some (cs.take (cs.length - port.length - 1), port)

/-- A port number, which may have a plus sign and leading zeros. -/
def port? (cs : List Char) : Option UInt16 :=
  let digits := if cs.head? = some '+' then cs.drop 1 else cs
  (whole (numeral ⟨10, none, true, 65536⟩) digits).map UInt16.ofNat

/-- Whether a host is reached over one link only, so that a scope may name the interface. -/
def isOnLink (ip : Ipv6) : Bool :=
  match ip.octets.toList with
  | a :: b :: _ => (a == 0xFE && 0x80 ≤ b && b ≤ 0xBF) || (a == 0xFF && b % 16 == 2)
  | _ => false

/-- The interfaces that every host has, with their numbers. -/
def interfaces : List (String × UInt32) := [("lo", 1)]

/-- The scope that the text after a host stands for: nothing, or `%` and a number or the name of an
interface. -/
def scope? (ip : Ipv6) (cs : List Char) : Option UInt32 :=
  match cs with
  | [] => some 0
  | mark :: name =>
    let named := if isOnLink ip then interfaces.lookup (String.ofList name) else none
    let number := (whole (numeral ⟨10, none, true, 4294967296⟩) name).map UInt32.ofNat
    if mark = '%' then named.or number else none

/-- The address of a port on a host, which is written without brackets. -/
def onHost? (host : List Char) (port : UInt16) : Option Address :=
  match Ipv4.ofNumbers? host with
  | some ip => some (.v4 ip port)
  | none => do
    let (ip, rest) ← Ipv6.reader host
    return .v6 ip port 0 (← scope? ip rest)

/-- The address that a text stands for: an address, or a host and a port with a colon between
them. -/
def lookup (text : String) : Except LookupError Address :=
  match ofText? text with
  | some a => .ok a
  | none =>
    match splitLastColon text.toList with
    | none => .error .noPort
    | some (host, portText) =>
      match port? portText with
      | none => .error .badPort
      | some port =>
        match onHost? host port with
        | some a => .ok a
        | none => .error .unknownHost

end Address

end MediaSocket
