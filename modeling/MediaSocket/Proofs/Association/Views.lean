import MediaSocket.Proofs.Association.Addresses

/-! All ways to read a registry agree, and a snapshot does not show in which order the addresses came. -/

namespace MediaSocket

namespace AssociationId

variable {x y z : AssociationId}

theorem le_trans (hxy : x ≤ y) (hyz : y ≤ z) : x ≤ z := List.le_trans hxy hyz

theorem le_total (x y : AssociationId) : x ≤ y ∨ y ≤ x := List.le_total ..

theorem lt_asymm (h : x < y) : ¬y < x := List.lt_asymm h

theorem lt_of_le_of_ne (hle : x ≤ y) (hne : x ≠ y) : x < y := by
  obtain hlt | heq := List.le_iff_lt_or_eq.1 hle
  · exact hlt
  · exact absurd (congrArg AssociationId.mk (Vector.toList_inj.1 heq)) hne

end AssociationId

namespace Registry

variable {r r' : Registry} {id : AssociationId} {a : Address}

/-! ### Snapshots -/

theorem snapshot_perm (r : Registry) :
    r.snapshot.Perm (r.peers.entries.map fun e => (e.1, e.2.address)) :=
  List.mergeSort_perm ..

theorem length_snapshot (r : Registry) : r.snapshot.length = r.size := by
  rw [r.snapshot_perm.length_eq, List.length_map]
  rfl

theorem mem_snapshot_iff : (id, a) ∈ r.snapshot ↔ r.addressOf? id = some a := by
  rw [r.snapshot_perm.mem_iff, addressOf?_eq_some_iff]
  simp only [List.mem_map, Prod.exists, Prod.mk.injEq, Table.mem_entries_iff, get?]
  constructor
  · rintro ⟨x, p, hp, rfl, rfl⟩
    exact ⟨p, hp, rfl⟩
  · rintro ⟨p, hp, rfl⟩
    exact ⟨id, p, hp, rfl, rfl⟩

theorem nodup_ids_snapshot (r : Registry) : (r.snapshot.map Prod.fst).Nodup := by
  have hids := r.snapshot_perm.map Prod.fst
  rw [List.map_map] at hids
  exact hids.nodup_iff.2 r.peers.nodup

/-- Sorting gives an order in which no id stands before a smaller one, and none stands twice. -/
theorem pairwise_snapshot (r : Registry) : (r.snapshot.map Prod.fst).Pairwise (· < ·) := by
  have hsorted : r.snapshot.Pairwise fun x y => decide (x.1 ≤ y.1) = true := by
    apply List.pairwise_mergeSort
    · intro x y z hxy hyz
      exact decide_eq_true (AssociationId.le_trans (of_decide_eq_true hxy) (of_decide_eq_true hyz))
    · intro x y
      simpa using AssociationId.le_total x.1 y.1
  have hle : (r.snapshot.map Prod.fst).Pairwise (· ≤ ·) :=
    List.pairwise_map.2 (hsorted.imp of_decide_eq_true)
  exact hle.imp₂ (fun _ _ => AssociationId.lt_of_le_of_ne) r.nodup_ids_snapshot

/-- A snapshot tells which addresses are stored, and nothing else. -/
theorem snapshot_eq_iff : r.snapshot = r'.snapshot ↔ ∀ id, r.addressOf? id = r'.addressOf? id := by
  constructor
  · intro h id
    apply Option.ext
    intro a
    rw [← mem_snapshot_iff, ← mem_snapshot_iff, h]
  · intro h
    have hperm : r.snapshot.Perm r'.snapshot := by
      refine (List.perm_ext_iff_of_nodup r.nodup_ids_snapshot.of_map
        r'.nodup_ids_snapshot.of_map).2 fun ⟨id, a⟩ => ?_
      rw [mem_snapshot_iff, mem_snapshot_iff, h]
    refine hperm.eq_of_pairwise ?_ (List.pairwise_map.1 r.pairwise_snapshot)
      (List.pairwise_map.1 r'.pairwise_snapshot)
    intro x y _ _ hxy hyx
    exact absurd hyx (AssociationId.lt_asymm hxy)

/-! ### The other views -/

/-- All ways to read a registry say the same. -/
structure Consistent (r : Registry) : Prop where
  ascending : (r.snapshot.map Prod.fst).Pairwise (· < ·)
  length_snapshot : r.snapshot.length = r.size
  stored : ∀ id a, (id, a) ∈ r.snapshot ↔ r.addressOf? id = some a
  peer : ∀ id a, r.addressOf? id = some a ↔ ∃ p, r.get? id = some p ∧ p.address = a
  contains_iff : ∀ id, r.contains id = true ↔ (r.addressOf? id).isSome = true
  isEmpty_iff : r.isEmpty = true ↔ r.snapshot = []
  keyed : ∀ id keys, r.keysOf? id = some keys → r.contains id = true
  /-- Each other address is listed once. -/
  others : ∀ id, (r.addressesExcluding id).Perm ((r.snapshot.filter fun e => e.1 ≠ id).map Prod.snd)
  others_nodup : ∀ id, (r.addressesExcluding id).Nodup
  length_others : ∀ id,
    (r.addressesExcluding id).length + (if r.contains id = true then 1 else 0) = r.size

theorem contains_iff_addressOf? : r.contains id = true ↔ (r.addressOf? id).isSome = true := by
  rw [addressOf?, Option.isSome_map]
  rfl

theorem isEmpty_iff : r.isEmpty = true ↔ r.snapshot = [] := by
  rw [isEmpty, beq_iff_eq, ← length_snapshot, List.length_eq_zero_iff]

theorem contains_of_keysOf? {keys : Srtp.Negotiated} (h : r.keysOf? id = some keys) :
    r.contains id = true := by
  obtain ⟨p, hp, -⟩ := Option.bind_eq_some_iff.1 h
  exact Table.contains_iff.2 ⟨p, hp⟩

theorem addressesExcluding_perm (r : Registry) (id : AssociationId) :
    (r.addressesExcluding id).Perm ((r.snapshot.filter fun e => e.1 ≠ id).map Prod.snd) := by
  have hothers := (r.snapshot_perm.filter fun e => e.1 ≠ id).map Prod.snd
  rw [List.filter_map, List.map_map] at hothers
  exact hothers.symm

theorem length_addressesExcluding (r : Registry) (id : AssociationId) :
    (r.addressesExcluding id).length + (if r.contains id = true then 1 else 0) = r.size := by
  rw [addressesExcluding, List.length_map]
  exact r.peers.size_erase id

theorem Sound.consistent (h : r.Sound) : r.Consistent where
  ascending := r.pairwise_snapshot
  length_snapshot := r.length_snapshot
  stored _ _ := mem_snapshot_iff
  peer _ _ := addressOf?_eq_some_iff
  contains_iff _ := contains_iff_addressOf?
  isEmpty_iff := isEmpty_iff
  keyed _ _ := contains_of_keysOf?
  others := r.addressesExcluding_perm
  others_nodup := h.nodup_addressesExcluding
  length_others := r.length_addressesExcluding

/-! ### The order of arrival -/

/-- The datagrams that arrive: where each one comes from, and when. -/
def sightings (arrivals : List (Address × Time)) : List Change :=
  arrivals.map fun arrival => .register arrival.1 arrival.2

/-- What an id stands for after some arrivals: the address that it stood for before, or else the first
one that has the id. -/
theorem addressOf?_sightings (r : Registry) (arrivals : List (Address × Time))
    (id : AssociationId) :
    (r.changeAll (sightings arrivals)).addressOf? id =
      (r.addressOf? id).or ((arrivals.map Prod.fst).find? fun a => r.resolve a = id) := by
  induction arrivals generalizing r with
  | nil => simp [sightings, changeAll]
  | cons arrival arrivals ih =>
    obtain ⟨a, now⟩ := arrival
    have hrest := ih (r.register a now)
    show ((r.register a now).changeAll (sightings arrivals)).addressOf? id = _
    rw [hrest, addressOf?_register, List.map_cons, List.find?_cons]
    show (if r.resolve a = id then _ else _ : Option Address).or
      ((arrivals.map Prod.fst).find? fun b => r.resolve b = id) = _
    by_cases howner : r.resolve a = id
    · simp only [howner, if_true, decide_true]
      cases r.addressOf? id <;> rfl
    · simp only [howner, if_false, decide_false]

/-- Where at most one element has a property, it is found in any order. -/
theorem find?_eq_of_same {α : Type} {p : α → Bool} {l l' : List α} (same : ∀ x, x ∈ l ↔ x ∈ l')
    (unique : ∀ x ∈ l, ∀ y ∈ l, p x = true → p y = true → x = y) : l.find? p = l'.find? p := by
  cases hfound : l.find? p with
  | none =>
    symm
    rw [List.find?_eq_none] at hfound ⊢
    intro x hx
    exact hfound x ((same x).2 hx)
  | some x =>
    have hx := List.mem_of_find?_eq_some hfound
    cases hfound' : l'.find? p with
    | none =>
      exact absurd (List.find?_some hfound) (List.find?_eq_none.1 hfound' x ((same x).1 hx))
    | some y =>
      have hy := (same y).2 (List.mem_of_find?_eq_some hfound')
      rw [unique x hx y hy (List.find?_some hfound) (List.find?_some hfound')]

theorem snapshot_sightings {early late : List (Address × Time)}
    (same : ∀ a, a ∈ early.map Prod.fst ↔ a ∈ late.map Prod.fst)
    (distinct : ∀ a ∈ early.map Prod.fst, ∀ b ∈ early.map Prod.fst,
      r.resolve a = r.resolve b → a = b) :
    (r.changeAll (sightings early)).snapshot = (r.changeAll (sightings late)).snapshot := by
  apply snapshot_eq_iff.2
  intro id
  rw [addressOf?_sightings, addressOf?_sightings]
  congr 1
  apply find?_eq_of_same same
  intro a ha b hb howner howner'
  exact distinct a ha b hb ((of_decide_eq_true howner).trans (of_decide_eq_true howner').symm)

/-- Whatever a registry has been through, all ways to read it agree. Addresses that have ids of their own
leave the same snapshot in whatever order and how often ever they are seen. -/
theorem views_agree (width : IdWidth) (changes : List Change) :
    let r := (empty width).changeAll changes
    r.Consistent ∧
      ∀ early late : List (Address × Time),
        (∀ a, a ∈ early.map Prod.fst ↔ a ∈ late.map Prod.fst) →
        (∀ a ∈ early.map Prod.fst, ∀ b ∈ early.map Prod.fst,
          r.resolve a = r.resolve b → a = b) →
        (r.changeAll (sightings early)).snapshot = (r.changeAll (sightings late)).snapshot := by
  intro r
  have hsound : r.Sound := sound_changeAll width changes
  refine ⟨hsound.consistent, ?_⟩
  intro early late same distinct
  exact snapshot_sightings same distinct

/-- Two peers that come one after the other, in either order, after a third one. -/
theorem views_agree_two_orders :
    let a : Address := .v4 .loopback 4000
    let b : Address := .v4 .loopback 5000
    let r := (empty .narrow).changeAll [.register (.v6 .loopback 4000 0 0) 0, .prune 10 5]
    let early := [(a, 6), (b, 7)]
    let late := [(b, 6), (a, 8), (b, 9)]
    r.resolve a ≠ r.resolve b ∧
      (r.changeAll (sightings early)).snapshot = (r.changeAll (sightings late)).snapshot := by
  intro a b r early late
  have hother : AssociationId.derive a .narrow ≠ AssociationId.derive b .narrow := by
    decide +kernel
  have hresolve (x : Address) : r.resolve x = AssociationId.derive x .narrow := by
    rw [resolve, width_changeAll]
    rfl
  refine ⟨by rwa [hresolve, hresolve], (views_agree .narrow _).2 early late ?_ ?_⟩
  · intro x
    show x ∈ [a, b] ↔ x ∈ [b, a, b]
    clear_value a b
    grind
  · intro x hx y hy h
    rw [hresolve, hresolve] at h
    clear_value r
    simp only [early, List.map_cons, List.map_nil, List.mem_cons, List.not_mem_nil, or_false] at hx hy
    rcases hx with rfl | rfl <;> rcases hy with rfl | rfl
    · rfl
    · exact absurd h hother
    · exact absurd h.symm hother
    · rfl

end Registry

end MediaSocket
