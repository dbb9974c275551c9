import MediaSocket.Address
import MediaSocket.Text.Numeral

/-!
The canonical text of addresses: four decimal numbers for IPv4; for IPv6 lowercase groups with the
longest run of zero groups as `::`, a mapped IPv4 host in its own notation; a port after a colon,
IPv6 hosts in brackets, with the scope after `%` unless it is 0.
-/

namespace MediaSocket

namespace Ipv4

def chars (ip : Ipv4) : List Char :=
  ['.'].intercalate (ip.octets.toList.map fun b => Text.decimal b.toNat)

end Ipv4

namespace Ipv6

/-- Groups in hexadecimal, with colons between them. -/
def groupChars (groups : List UInt16) : List Char :=
  [':'].intercalate (groups.map fun g => Nat.toDigits 16 g.toNat)

/-- How many groups are zero from `start` on. -/
def zerosFrom (groups : List UInt16) (start : Nat) : Nat :=
  ((groups.drop start).takeWhile (· == 0)).length

/-- Start and length of the longest run of zero groups, the first one of that length. -/
def longestZeros (groups : List UInt16) : Nat × Nat :=
  (List.range groups.length).foldl
    (fun best start =>
      let n := zerosFrom groups start
      if best.2 < n then (start, n) else best)
    (0, 0)

/-- Groups with the longest run of at least two zero groups left out. -/
def compressed (groups : List UInt16) : List Char :=
  let (start, count) := longestZeros groups
  if 1 < count then
    groupChars (groups.take start) ++ [':', ':'] ++ groupChars (groups.drop (start + count))
  else groupChars groups

def chars (ip : Ipv6) : List Char :=
  match ip.mapped? with
  | some v4 => "::ffff:".toList ++ v4.chars
  | none => compressed ip.groups

end Ipv6

namespace Ip

def chars : Ip → List Char
  | .v4 ip => ip.chars
  | .v6 ip => ip.chars

def text (ip : Ip) : String := String.ofList ip.chars

end Ip

namespace Address

def chars : Address → List Char
  | .v4 ip port => ip.chars ++ ':' :: Text.decimal port.toNat
  | .v6 ip port _ scope =>
    let zone := if scope = 0 then [] else '%' :: Text.decimal scope.toNat
    '[' :: ip.chars ++ zone ++ ']' :: ':' :: Text.decimal port.toNat

def text (a : Address) : String := String.ofList a.chars

end Address

end MediaSocket
