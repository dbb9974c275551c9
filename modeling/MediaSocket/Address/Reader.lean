import MediaSocket.Address
import MediaSocket.Text.Numeral

/-!
Addresses from their text. More is read than the canonical text: groups with leading zeros or in
upper case, `::` anywhere, an IPv4 host as the last two groups, ports with leading zeros.
-/

namespace MediaSocket

open Text

namespace Ipv4

/-- One of the four numbers: at most three digits, without a leading zero. -/
def octet : Reader UInt8 := fun cs =>
  (numeral ⟨10, some 3, false, 256⟩ cs).map fun (n, rest) => (UInt8.ofNat n, rest)

/-- One of the last three numbers, after its point. -/
def nextOctet : Reader UInt8 := fun cs => (expect '.' cs).bind octet

def reader : Reader Ipv4 := fun cs => do
  let (a, cs) ← octet cs
  let (b, cs) ← nextOctet cs
  let (c, cs) ← nextOctet cs
  let (d, cs) ← nextOctet cs
  return (.ofBytes [a, b, c, d], cs)

end Ipv4

namespace Ipv6

/-- One group: at most four digits. -/
def group : Reader UInt16 := fun cs =>
  (numeral ⟨16, some 4, true, 65536⟩ cs).map fun (n, rest) => (UInt16.ofNat n, rest)

/-- What stands before or after `::`. -/
structure Part where
  groups : List UInt16
  /-- Whether the last two groups are written as an IPv4 host. -/
  endsInIpv4 : Bool
  rest : List Char

/-- As many groups as can be read, at most `room`; an IPv4 host takes the room of two and ends the
part. -/
def part (first : Bool) : Nat → List Char → Part
  | 0, cs => ⟨[], false, cs⟩
  | room + 1, cs =>
    match if room = 0 then none else separated first Ipv4.reader cs with
    | some (ip, rest) => ⟨pairs ip.octets.toList, true, rest⟩
    | none =>
      match separated first group cs with
      | some (g, rest) =>
        let more := part false room rest
        { more with groups := g :: more.groups }
      | none => ⟨[], false, cs⟩

/-- Eight groups, or fewer around `::`, which stands for one zero group at least. -/
def reader : Reader Ipv6 := fun cs =>
  let front := part true 8 cs
  if front.groups.length = 8 then some (ofGroups front.groups, front.rest)
  else if front.endsInIpv4 then none
  else do
    let cs ← expect ':' front.rest
    let cs ← expect ':' cs
    let back := part true (7 - front.groups.length) cs
    let zeros := List.replicate (8 - front.groups.length - back.groups.length) 0
    return (ofGroups (front.groups ++ zeros ++ back.groups), back.rest)

end Ipv6

namespace Ip

def reader : Reader Ip := fun cs =>
  match Ipv4.reader cs with
  | some (ip, rest) => some (.v4 ip, rest)
  | none => (Ipv6.reader cs).map fun (ip, rest) => (.v6 ip, rest)

def ofText? (text : String) : Option Ip :=
  match whole Ipv4.reader text.toList with
  | some ip => some (.v4 ip)
  | none => (whole Ipv6.reader text.toList).map .v6

end Ip

namespace Address

/-- A port after its colon. -/
def portReader : Reader UInt16 := fun cs => do
  let cs ← expect ':' cs
  let (n, rest) ← numeral ⟨10, none, true, 65536⟩ cs
  return (UInt16.ofNat n, rest)

/-- A scope after `%`, or the scope 0 where there is none. -/
def scopeReader : List Char → UInt32 × List Char := fun cs =>
  match (expect '%' cs).bind (numeral ⟨10, none, true, 4294967296⟩) with
  | some (n, rest) => (UInt32.ofNat n, rest)
  | none => (0, cs)

def reader4 : Reader Address := fun cs => do
  let (ip, cs) ← Ipv4.reader cs
  let (port, cs) ← portReader cs
  return (.v4 ip port, cs)

def reader6 : Reader Address := fun cs => do
  let cs ← expect '[' cs
  let (ip, cs) ← Ipv6.reader cs
  let (scope, cs) := scopeReader cs
  let cs ← expect ']' cs
  let (port, cs) ← portReader cs
  return (.v6 ip port 0 scope, cs)

def ofText? (text : String) : Option Address :=
  match whole reader4 text.toList with
  | some a => some a
  | none => whole reader6 text.toList

end Address

end MediaSocket
