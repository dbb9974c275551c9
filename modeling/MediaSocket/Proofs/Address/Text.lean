import MediaSocket.Address.Reader
import MediaSocket.Address.Text
import MediaSocket.Proofs.Text.Numeral
import Mathlib.Data.List.Basic

/-! Every host is read back from its canonical text, and so is every transport address but for the flow
label, which its text leaves out. -/

namespace MediaSocket

open Text

/-- `rest` does not go on with a point. -/
def NoPoint (rest : List Char) : Prop := expect '.' rest = none

variable {cs rest : List Char}

namespace Ipv4

theorem octet_append (b : UInt8) (hrest : NoDigit 10 rest) :
    octet (decimal b.toNat ++ rest) = some (b, rest) := by
  have hb := b.toNat_lt
  have hread := @numeral_toDigits b.toNat rest ⟨10, some 3, false, 256⟩ (by decide)
    (by rintro m ⟨⟩; exact ⟨by decide, Nat.lt_of_lt_of_le hb (by decide)⟩) hb hrest
  rw [octet, decimal, hread]
  simp only [Option.map_some, UInt8.ofNat_toNat]

theorem octet_nil (hrest : NoDigit 10 rest) : octet rest = none := by
  rw [octet, numeral_nil _ hrest, Option.map_none]

theorem nextOctet_append (b : UInt8) (hrest : NoDigit 10 rest) :
    nextOctet ('.' :: (decimal b.toNat ++ rest)) = some (b, rest) := by
  rw [nextOctet, expect, if_pos rfl, Option.bind_some, octet_append b hrest]

theorem octets_cases (ip : Ipv4) : ∃ a b c d, ip.octets.toList = [a, b, c, d] := by
  have hlength := ip.octets.length_toList
  generalize ip.octets.toList = octets at hlength
  rcases octets with _ | ⟨a, _ | ⟨b, _ | ⟨c, _ | ⟨d, _ | ⟨e, octets⟩⟩⟩⟩⟩
  all_goals first | exact ⟨a, b, c, d, rfl⟩ | simp at hlength

theorem octets_ofBytes {bytes : Bytes} (h : bytes.length = 4) :
    (ofBytes bytes).octets.toList = bytes :=
  Bytes.toList_ofFn_getD_of_length h

theorem noDigit_point (rest : List Char) : NoDigit 10 ('.' :: rest) := noDigit_cons (by decide) rest

theorem reader_chars (ip : Ipv4) (hrest : NoDigit 10 rest) :
    reader (ip.chars ++ rest) = some (ip, rest) := by
  obtain ⟨a, b, c, d, hoctets⟩ := ip.octets_cases
  have hip := ip.ofBytes_octets
  rw [hoctets] at hip
  have hchars : ip.chars ++ rest = decimal a.toNat ++ ('.' :: (decimal b.toNat ++
      ('.' :: (decimal c.toNat ++ ('.' :: (decimal d.toNat ++ rest)))))) := by
    simp [chars, hoctets]
  rw [reader, hchars, octet_append a (noDigit_point _)]
  simp only [Option.bind_eq_bind, Option.bind_some, nextOctet_append b (noDigit_point _),
    nextOctet_append c (noDigit_point _), nextOctet_append d hrest, Option.pure_def, hip]

/-- There is no host without a point after the first digits. -/
theorem reader_eq_none (hcs : ∀ c ∈ cs, c ≠ '.') (hdigit : NoDigit 10 rest) (hpoint : NoPoint rest) :
    reader (cs ++ rest) = none := by
  rw [reader]
  cases hoctet : octet (cs ++ rest) with
  | none => rfl
  | some first =>
    obtain ⟨a, end_⟩ := first
    obtain ⟨⟨n, end'⟩, hnumeral, hend⟩ := Option.map_eq_some_iff.1 hoctet
    cases hend
    obtain ⟨tail, hsuffix, htail⟩ := takeDigits_suffix cs hdigit
    have hrest : end_ = tail ++ rest := (numeral_eq_some hnumeral).trans htail
    have hexpect : expect '.' end_ = none := by
      rw [hrest]
      cases tail with
      | nil => exact hpoint
      | cons c tail => exact if_neg (hcs c (hsuffix.subset List.mem_cons_self))
    simp only [Option.bind_eq_bind, Option.bind_some, nextOctet, hexpect, Option.bind_none]

end Ipv4

namespace Ipv6

theorem group_append (g : UInt16) (hrest : NoDigit 16 rest) :
    group (Nat.toDigits 16 g.toNat ++ rest) = some (g, rest) := by
  have hg := g.toNat_lt
  have hread := @numeral_toDigits g.toNat rest ⟨16, some 4, true, 65536⟩ (by decide)
    (by rintro m ⟨⟩; exact ⟨by decide, Nat.lt_of_lt_of_le hg (by decide)⟩) hg hrest
  rw [group, hread]
  simp only [Option.map_some, UInt16.ofNat_toNat]

theorem group_nil (hrest : NoDigit 16 rest) : group rest = none := by
  rw [group, numeral_nil _ hrest, Option.map_none]

/-- The text of groups ends where `rest` starts. -/
structure Closes (rest : List Char) : Prop where
  digit : NoDigit 16 rest
  point : NoPoint rest
  group : ∀ rest', rest = ':' :: rest' → NoDigit 16 rest'

/-- Groups with a colon before each. -/
def nextGroups (groups : List UInt16) : List Char :=
  groups.flatMap fun g => ':' :: Nat.toDigits 16 g.toNat

theorem groupChars_cons (g : UInt16) (groups : List UInt16) :
    groupChars (g :: groups) = Nat.toDigits 16 g.toNat ++ nextGroups groups := by
  induction groups generalizing g with
  | nil => rw [groupChars, List.map_singleton, List.intercalate_singleton, nextGroups,
      List.flatMap_nil, List.append_nil]
  | cons g' groups ih =>
    have ih := ih g'
    rw [groupChars, List.map_cons] at ih ⊢
    rw [List.map_cons, List.intercalate_cons_cons, ih, nextGroups, nextGroups, List.flatMap_cons,
      List.append_assoc, List.singleton_append, List.cons_append]

theorem ne_point_of_mem_toDigits {g : UInt16} {c : Char} (hc : c ∈ Nat.toDigits 16 g.toNat) :
    c ≠ '.' := by
  obtain ⟨ds, hds⟩ := exists_spells (by decide : 1 < 16) (by decide) g.toNat
  obtain ⟨d, hd⟩ := hds.digit_of_mem hc
  exact ne_of_digit? hd '.' (by decide)

/-- No IPv4 host and no further digit follows a group. -/
theorem nextGroups_ends (groups : List UInt16) (hdigit : NoDigit 16 rest) (hpoint : NoPoint rest) :
    NoDigit 16 (nextGroups groups ++ rest) ∧ NoPoint (nextGroups groups ++ rest) := by
  cases groups with
  | nil => exact ⟨hdigit, hpoint⟩
  | cons g groups => exact ⟨noDigit_cons (by decide) _, rfl⟩

theorem reader4_group {g : UInt16} (hdigit : NoDigit 16 rest) (hpoint : NoPoint rest) :
    Ipv4.reader (Nat.toDigits 16 g.toNat ++ rest) = none :=
  Ipv4.reader_eq_none (fun _ => ne_point_of_mem_toDigits) (hdigit.mono (by decide)) hpoint

theorem separated_colon {α : Type} (r : Reader α) (cs : List Char) :
    separated false r (':' :: cs) = r cs := rfl

theorem separated_first {α : Type} (r : Reader α) (cs : List Char) :
    separated true r cs = r cs := rfl

theorem separated_closes {α : Type} {r : Reader α} (hr : ∀ cs, NoDigit 16 cs → r cs = none)
    (hrest : Closes rest) : separated false r rest = none := by
  rw [separated, if_neg Bool.false_ne_true]
  cases rest with
  | nil => rfl
  | cons c rest =>
    by_cases hc : c = ':'
    · subst hc
      exact hr rest (hrest.group rest rfl)
    · rw [expect, if_neg hc, Option.bind_none]

theorem reader4_nil (hrest : NoDigit 16 rest) : Ipv4.reader rest = none := by
  rw [Ipv4.reader, Ipv4.octet_nil (hrest.mono (by decide))]
  rfl

theorem part_next {room : Nat} {groups : List UInt16} (hroom : groups.length ≤ room)
    (hrest : Closes rest) :
    part false room (nextGroups groups ++ rest) = ⟨groups, false, rest⟩ := by
  induction groups generalizing room with
  | nil =>
    cases room with
    | zero => rfl
    | succ room =>
      rw [nextGroups, List.flatMap_nil, List.nil_append, part,
        separated_closes (fun _ => reader4_nil) hrest, separated_closes (fun _ => group_nil) hrest,
        ite_self]
  | cons g groups ih =>
    cases room with
    | zero => exact absurd hroom (Nat.not_succ_le_zero _)
    | succ room =>
      obtain ⟨hdigit, hpoint⟩ := nextGroups_ends groups hrest.digit hrest.point
      have hchars : nextGroups (g :: groups) ++ rest =
          ':' :: (Nat.toDigits 16 g.toNat ++ (nextGroups groups ++ rest)) := by
        rw [nextGroups, List.flatMap_cons, List.append_assoc, List.cons_append, ← nextGroups]
      rw [hchars, part, separated_colon, separated_colon, reader4_group hdigit hpoint,
        group_append g hdigit, ite_self]
      simp only [ih (Nat.le_of_succ_le_succ hroom)]

theorem part_groupChars {room : Nat} {groups : List UInt16} (hroom : groups.length ≤ room)
    (hrest : Closes rest) :
    part true room (groupChars groups ++ rest) = ⟨groups, false, rest⟩ := by
  cases room with
  | zero =>
    obtain rfl := List.eq_nil_of_length_eq_zero (Nat.le_zero.1 hroom)
    rfl
  | succ room =>
    cases groups with
    | nil =>
      rw [groupChars, List.map_nil, List.intercalate_nil, List.nil_append, part, separated_first,
        separated_first,
        reader4_nil hrest.digit, group_nil hrest.digit, ite_self]
    | cons g groups =>
      obtain ⟨hdigit, hpoint⟩ := nextGroups_ends groups hrest.digit hrest.point
      rw [groupChars_cons, List.append_assoc, part, separated_first,
        separated_first, reader4_group hdigit hpoint,
        group_append g hdigit, ite_self]
      simp only [part_next (Nat.le_of_succ_le_succ hroom) hrest]

/-! ### Groups and bytes -/

theorem octets_ofBytes {bytes : Bytes} (h : bytes.length = 16) :
    (ofBytes bytes).octets.toList = bytes :=
  Bytes.toList_ofFn_getD_of_length h

theorem pairs_bytes {bytes : Bytes} {n : Nat} (h : bytes.length = 2 * n) :
    (pairs bytes).length = n ∧ (pairs bytes).flatMap Bytes.ofUInt16 = bytes := by
  induction n generalizing bytes with
  | zero =>
    obtain rfl := List.eq_nil_of_length_eq_zero h
    exact ⟨rfl, rfl⟩
  | succ n ih =>
    rcases bytes with _ | ⟨high, _ | ⟨low, bytes⟩⟩
    · cases h
    · simp at h
      omega
    · obtain ⟨hlength, hbytes⟩ := @ih bytes (by simp at h; omega)
      rw [pairs, List.length_cons, hlength, List.flatMap_cons, hbytes, Bytes.ofUInt16_toUInt16]
      exact ⟨rfl, rfl⟩

theorem length_groups (ip : Ipv6) : ip.groups.length = 8 :=
  (pairs_bytes (n := 8) ip.octets.length_toList).1

theorem ofGroups_groups (ip : Ipv6) : ofGroups ip.groups = ip := by
  rw [ofGroups, groups, (pairs_bytes (n := 8) ip.octets.length_toList).2, ofBytes_octets]

/-- A mapped host is a prefix and the octets of the IPv4 host. -/
theorem mapped_octets {ip : Ipv6} {v4 : Ipv4} (h : ip.mapped? = some v4) :
    ip.octets.toList.take 12 = List.replicate 10 0 ++ [0xFF, 0xFF] ∧
      v4.octets.toList = ip.octets.toList.drop 12 := by
  rw [mapped?] at h
  split at h
  · rename_i hpre
    obtain rfl := Option.some.inj h
    refine ⟨hpre, Ipv4.octets_ofBytes ?_⟩
    rw [List.length_drop, Vector.length_toList]
  · cases h

/-! ### The longest run of zeros -/

theorem longestZeros_le (groups : List UInt16) :
    (longestZeros groups).2 ≤ zerosFrom groups (longestZeros groups).1 := by
  rw [longestZeros]
  refine List.foldlRecOn (motive := fun best : Nat × Nat => best.2 ≤ zerosFrom groups best.1) _ _
    (Nat.zero_le _) fun best hbest start _ => ?_
  dsimp only
  split
  · exact Nat.le_refl _
  · exact hbest

theorem take_zeros {groups : List UInt16} {n : Nat}
    (h : n ≤ (groups.takeWhile (· == 0)).length) : groups.take n = List.replicate n 0 := by
  have hsplit : groups.takeWhile (· == 0) ++ groups.dropWhile (· == 0) = groups :=
    List.takeWhile_append_dropWhile
  have htake : groups.take n = (groups.takeWhile (· == 0)).take n := by
    conv_lhs => rw [← hsplit]
    exact List.take_append_of_le_length h
  rw [htake, List.eq_replicate_iff, List.length_take, Nat.min_eq_left h]
  exact ⟨rfl, fun g hg => beq_iff_eq.1 (List.all_eq_true.1 List.all_takeWhile g (List.mem_of_mem_take hg))⟩

theorem take_zeros_drop {groups : List UInt16} {start count : Nat}
    (h : count ≤ zerosFrom groups start) :
    groups.take start ++ List.replicate count 0 ++ groups.drop (start + count) = groups := by
  rw [← take_zeros h, List.append_assoc, ← List.drop_drop, List.take_append_drop,
    List.take_append_drop]

theorem zerosFrom_le (groups : List UInt16) (start : Nat) :
    zerosFrom groups start ≤ groups.length - start := by
  rw [zerosFrom, ← List.length_drop]
  exact (List.takeWhile_sublist _).length_le

/-! ### Hosts -/

theorem noDigit_colon (rest : List Char) : NoDigit 16 (':' :: rest) := noDigit_cons (by decide) rest

theorem closes_colons (rest : List Char) : Closes (':' :: ':' :: rest) :=
  ⟨noDigit_colon _, rfl, fun _ h => (List.cons.inj h).2 ▸ noDigit_colon rest⟩

/-- Groups before `::`, and what is read after it. -/
theorem reader_colons {front : List UInt16} (hfront : front.length < 8) (cs : List Char) :
    reader (groupChars front ++ ':' :: ':' :: cs) =
      let back := part true (7 - front.length) cs
      let zeros := List.replicate (8 - front.length - back.groups.length) 0
      some (ofGroups (front ++ zeros ++ back.groups), back.rest) := by
  have hpart := part_groupChars (Nat.le_of_lt hfront) (closes_colons cs)
  rw [reader]
  simp only [hpart]
  rw [if_neg (Nat.ne_of_lt hfront)]
  rfl

theorem reader_compressed {groups : List UInt16} (hlength : groups.length = 8)
    (hrest : Closes rest) : reader (compressed groups ++ rest) = some (ofGroups groups, rest) := by
  have hzeros := longestZeros_le groups
  have hfit := zerosFrom_le groups (longestZeros groups).1
  rw [compressed]
  generalize (longestZeros groups) = run at *
  obtain ⟨start, count⟩ := run
  dsimp only at *
  by_cases hcount : 1 < count
  · have hback := @part_groupChars rest (7 - (groups.take start).length)
      (groups.drop (start + count)) (by rw [List.length_drop, List.length_take]; omega) hrest
    rw [if_pos hcount, List.append_assoc, List.append_assoc, List.cons_append, List.cons_append,
      List.nil_append, reader_colons (by rw [List.length_take]; omega)]
    simp only [hback]
    have hleft : 8 - (groups.take start).length - (groups.drop (start + count)).length = count := by
      rw [List.length_drop, List.length_take]
      omega
    rw [hleft, take_zeros_drop hzeros]
  · have hpart := part_groupChars (Nat.le_of_eq hlength) hrest
    rw [if_neg hcount, reader]
    simp only [hpart, if_pos hlength]

theorem reader_mapped {ip : Ipv6} {v4 : Ipv4} (h : ip.mapped? = some v4) (hrest : Closes rest) :
    reader ("::ffff:".toList ++ v4.chars ++ rest) = some (ip, rest) := by
  obtain ⟨hpre, hv4⟩ := mapped_octets h
  have hread := v4.reader_chars (hrest.digit.mono (by decide : 10 ≤ 16))
  -- The last two groups are the IPv4 host.
  have hback : part true 7 (Nat.toDigits 16 (0xFFFF : UInt16).toNat ++ ':' :: (v4.chars ++ rest)) =
      ⟨0xFFFF :: pairs v4.octets.toList, true, rest⟩ := by
    have hpart : part false 6 (':' :: (v4.chars ++ rest)) =
        ⟨pairs v4.octets.toList, true, rest⟩ := by
      rw [part, separated_colon, if_neg (by decide), hread]
    rw [part, separated_first, separated_first, reader4_group (noDigit_colon _) rfl,
      group_append _ (noDigit_colon _), ite_self]
    simp only [hpart]
  obtain ⟨hlength, hbytes⟩ := pairs_bytes (n := 2) v4.octets.length_toList
  have htext : "::ffff:".toList ++ v4.chars ++ rest = groupChars [] ++
      ':' :: ':' :: (Nat.toDigits 16 (0xFFFF : UInt16).toNat ++ ':' :: (v4.chars ++ rest)) := rfl
  rw [htext, reader_colons (by decide)]
  simp only [List.length_nil, Nat.sub_zero, hback, List.length_cons, hlength]
  have hgroups : ofGroups ([] ++ List.replicate (8 - (2 + 1)) 0 ++
      0xFFFF :: pairs v4.octets.toList) = ip := by
    have hfront : (List.replicate 10 0 ++ [0xFF, 0xFF] : Bytes) =
      (List.replicate (8 - (2 + 1)) 0).flatMap Bytes.ofUInt16 ++ Bytes.ofUInt16 0xFFFF := by decide
    rw [ofGroups, List.nil_append, List.flatMap_append, List.flatMap_cons, hbytes,
      ← List.append_assoc, ← hfront, ← hpre, hv4, List.take_append_drop, ofBytes_octets]
  rw [hgroups]

theorem reader_chars (ip : Ipv6) (hrest : Closes rest) :
    reader (ip.chars ++ rest) = some (ip, rest) := by
  rw [chars]
  cases hmapped : ip.mapped? with
  | none =>
    dsimp only
    rw [reader_compressed ip.length_groups hrest, ofGroups_groups]
  | some v4 => exact reader_mapped hmapped hrest

theorem reader4_groupChars (groups : List UInt16) (hdigit : NoDigit 16 rest)
    (hpoint : NoPoint rest) : Ipv4.reader (groupChars groups ++ rest) = none := by
  cases groups with
  | nil => exact reader4_nil hdigit
  | cons g groups =>
    obtain ⟨hdigit, hpoint⟩ := nextGroups_ends groups hdigit hpoint
    rw [groupChars_cons, List.append_assoc, reader4_group hdigit hpoint]

/-- The text of an IPv6 host is not that of an IPv4 host. -/
theorem reader4_chars (ip : Ipv6) (hrest : Closes rest) :
    Ipv4.reader (ip.chars ++ rest) = none := by
  rw [chars]
  cases ip.mapped? with
  | some v4 => exact reader4_nil (noDigit_colon _)
  | none =>
    dsimp only [compressed]
    split
    · rw [List.append_assoc, List.append_assoc]
      exact reader4_groupChars _ (noDigit_colon _) rfl
    · exact reader4_groupChars _ hrest.digit hrest.point

end Ipv6

namespace Ip

theorem ofText?_text (ip : Ip) : ofText? ip.text = some ip := by
  rw [ofText?, text, String.toList_ofList]
  cases ip with
  | v4 ip =>
    have hread := @Ipv4.reader_chars [] ip nofun
    rw [List.append_nil] at hread
    simp only [chars, whole, hread]
  | v6 ip =>
    have hcloses : Ipv6.Closes [] := ⟨nofun, rfl, nofun⟩
    have hnone := ip.reader4_chars hcloses
    have hread := ip.reader_chars hcloses
    rw [List.append_nil] at hnone hread
    simp only [chars, whole, hnone, hread, Option.map_some]

end Ip

namespace Address

variable {a b : Address}

def scope : Address → UInt32
  | .v4 .. => 0
  | .v6 _ _ _ scope => scope

/-- What is left of an address without its flow label. -/
def withoutFlow : Address → Address
  | .v4 ip port => .v4 ip port
  | .v6 ip port _ scope => .v6 ip port 0 scope

/-- The same host, and so the same family, with the same port and, for IPv6, the same scope. -/
structure SamePeer (a b : Address) : Prop where
  ip : a.ip = b.ip
  port : a.port = b.port
  scope : a.scope = b.scope

theorem withoutFlow_eq_iff : a.withoutFlow = b.withoutFlow ↔ a.SamePeer b := by
  constructor
  · intro h
    cases a with
    | v4 ip port =>
      cases b with
      | v4 ip' port' =>
        cases h
        exact ⟨rfl, rfl, rfl⟩
      | v6 => cases h
    | v6 ip port flow scope =>
      cases b with
      | v4 => cases h
      | v6 ip' port' flow' scope' =>
        cases h
        exact ⟨rfl, rfl, rfl⟩
  · rintro ⟨hip, hport, hscope⟩
    cases a with
    | v4 ip port =>
      cases b with
      | v4 ip' port' =>
        cases hip
        cases hport
        rfl
      | v6 => cases hip
    | v6 ip port flow scope =>
      cases b with
      | v4 => cases hip
      | v6 ip' port' flow' scope' =>
        cases hip
        cases hport
        cases hscope
        rfl

theorem chars_withoutFlow (a : Address) : a.withoutFlow.chars = a.chars := by
  cases a with
  | v4 => rfl
  | v6 => rfl

theorem portReader_decimal (port : UInt16) :
    portReader (':' :: decimal port.toNat) = some (port, []) := by
  have hread := @numeral_toDigits port.toNat [] ⟨10, none, true, 65536⟩ (by decide) nofun
    port.toNat_lt nofun
  rw [List.append_nil] at hread
  rw [portReader, expect, if_pos rfl, decimal]
  simp only [Option.bind_eq_bind, Option.bind_some, hread, UInt16.ofNat_toNat, Option.pure_def]

/-- What stands between a host and the bracket after it. -/
def zone (scope : UInt32) : List Char :=
  if scope = 0 then [] else '%' :: decimal scope.toNat

theorem scopeReader_zone (scope : UInt32) (rest : List Char) :
    scopeReader (zone scope ++ ']' :: rest) = (scope, ']' :: rest) := by
  rw [zone]
  split
  · rename_i hzero
    rw [hzero]
    rfl
  · have hread := @numeral_toDigits scope.toNat (']' :: rest) ⟨10, none, true, 4294967296⟩
      (by decide) nofun scope.toNat_lt (noDigit_cons (by decide) rest)
    rw [scopeReader, List.cons_append, expect, if_pos rfl, Option.bind_some, decimal, hread]
    simp only [UInt32.ofNat_toNat]

theorem closes_zone (scope : UInt32) (rest : List Char) :
    Ipv6.Closes (zone scope ++ ']' :: rest) := by
  rw [zone]
  split
  · exact ⟨noDigit_cons (by decide) _, rfl, nofun⟩
  · exact ⟨noDigit_cons (by decide) _, rfl, nofun⟩

theorem reader4_bracket (cs : List Char) : reader4 ('[' :: cs) = none := by
  rw [reader4, Ipv6.reader4_nil (noDigit_cons (by decide) cs)]
  rfl

theorem ofText?_text (a : Address) : ofText? a.text = some a.withoutFlow := by
  rw [ofText?, text, String.toList_ofList]
  cases a with
  | v4 ip port =>
    have hcolon : NoDigit 10 (':' :: decimal port.toNat) := noDigit_cons (by decide) _
    have hread : reader4 (ip.chars ++ ':' :: decimal port.toNat) = some (.v4 ip port, []) := by
      rw [reader4, ip.reader_chars hcolon]
      simp only [Option.bind_eq_bind, Option.bind_some, portReader_decimal, Option.pure_def]
    simp only [chars, whole, hread, withoutFlow]
  | v6 ip port flow scope =>
    have hchars : (Address.v6 ip port flow scope).chars =
        '[' :: (ip.chars ++ (zone scope ++ ']' :: ':' :: decimal port.toNat)) := by
      rw [chars, zone]
      simp only [List.cons_append, List.append_assoc]
    have hread : reader6 ('[' :: (ip.chars ++ (zone scope ++ ']' :: ':' :: decimal port.toNat))) =
        some (.v6 ip port 0 scope, []) := by
      rw [reader6, expect, if_pos rfl]
      simp only [Option.bind_eq_bind, Option.bind_some, ip.reader_chars (closes_zone scope _),
        scopeReader_zone, expect, if_true, portReader_decimal, Option.pure_def]
    rw [hchars]
    simp only [whole, reader4_bracket, hread, withoutFlow]

/-- The text tells peers apart. -/
theorem chars_eq_iff : a.chars = b.chars ↔ a.SamePeer b := by
  rw [← withoutFlow_eq_iff]
  constructor
  · intro h
    have htext : a.text = b.text := congrArg String.ofList h
    have ha := ofText?_text a
    rw [htext, ofText?_text b] at ha
    exact (Option.some.inj ha).symm
  · intro h
    rw [← chars_withoutFlow a, h, chars_withoutFlow b]

end Address

end MediaSocket
