import MediaSocket.Proofs.Association.History

/-! Every address in a registry is stored under its own id, whatever the registry has been through. So
no address is stored twice, and the id of a datagram's source tells which peer it does not go back
to. -/

namespace MediaSocket.Registry

variable {r : Registry} {width : IdWidth} {id : AssociationId} {a : Address}

theorem get?_empty (width : IdWidth) (id : AssociationId) : (empty width).get? id = none := rfl

theorem get?_register (r : Registry) (a : Address) (now : Time) (x : AssociationId) :
    (r.register a now).get? x =
      if r.resolve a = x then some (seen (r.get? x) a now) else r.get? x :=
  get?_change r (.register a now) x

theorem get?_setKeys (r : Registry) (id : AssociationId) (keys : Srtp.Negotiated)
    (x : AssociationId) :
    (r.change (.setKeys id keys)).get? x =
      if id = x then (r.get? x).map fun p => { p with keys := some keys } else r.get? x :=
  get?_change r (.setKeys id keys) x

theorem addressOf?_eq_some_iff :
    r.addressOf? id = some a ↔ ∃ p, r.get? id = some p ∧ p.address = a :=
  Option.map_eq_some_iff

/-- Every address is stored under its own id. -/
def Sound (r : Registry) : Prop := ∀ id a, r.addressOf? id = some a → r.resolve a = id

theorem sound_empty (width : IdWidth) : (empty width).Sound := fun _ _ h => nomatch h

/-- An address that a change stores is stored under its own id; all others were there before. -/
theorem addressOf?_change {c : Change} (h : (r.change c).addressOf? id = some a) :
    r.addressOf? id = some a ∨ r.resolve a = id := by
  obtain ⟨p, hp, rfl⟩ := addressOf?_eq_some_iff.1 h
  rw [get?_change] at hp
  rw [addressOf?]
  cases c with
  | register b now =>
    rw [peerAfter] at hp
    split at hp
    · rename_i howner
      cases hknown : r.get? id with
      | none =>
        rw [hknown] at hp
        cases hp
        exact .inr howner
      | some q =>
        rw [hknown] at hp
        cases hp
        exact .inl rfl
    · rw [hp]
      exact .inl rfl
  | setKeys x keys =>
    rw [peerAfter] at hp
    split at hp
    · obtain ⟨q, hq, rfl⟩ := Option.map_eq_some_iff.1 hp
      rw [hq]
      exact .inl rfl
    · rw [hp]
      exact .inl rfl
  | prune maxIdle now =>
    rw [(Option.filter_eq_some_iff.1 hp).1]
    exact .inl rfl

theorem Sound.change (h : r.Sound) (c : Change) : (r.change c).Sound := by
  intro id a ha
  rw [resolve, width_change]
  obtain hold | hown := addressOf?_change ha
  · exact h id a hold
  · exact hown

theorem sound_changeAll (width : IdWidth) (changes : List Change) :
    ((empty width).changeAll changes).Sound := by
  induction changes using List.reverseRecOn with
  | nil => exact sound_empty width
  | append_singleton changes c ih =>
    rw [changeAll_concat]
    exact ih.change c

/-! ### A datagram arrives -/

theorem addressOf?_register (r : Registry) (a : Address) (now : Time) (x : AssociationId) :
    (r.register a now).addressOf? x =
      if r.resolve a = x then some ((r.addressOf? x).getD a) else r.addressOf? x := by
  rw [addressOf?, get?_register, addressOf?]
  split
  · cases r.get? x <;> rfl
  · rfl

theorem addressOf?_register_of_known {b : Address} (h : r.addressOf? id = some b) (a : Address)
    (now : Time) : (r.register a now).addressOf? id = some b := by
  rw [addressOf?_register, h, Option.getD_some, ite_self]

/-- The source of a datagram is known from then on, under its own address or an older one. -/
theorem addressOf?_register_self (r : Registry) (a : Address) (now : Time) :
    (r.register a now).addressOf? (r.resolve a) =
      some ((r.addressOf? (r.resolve a)).getD a) := by
  rw [addressOf?_register, if_pos rfl]

theorem get?_register_of_ne {x : AssociationId} (h : x ≠ r.resolve a) (now : Time) :
    (r.register a now).get? x = r.get? x := by
  rw [get?_register, if_neg (Ne.symm h)]

theorem keysOf?_register (r : Registry) (a : Address) (now : Time) (x : AssociationId) :
    (r.register a now).keysOf? x = r.keysOf? x := by
  rw [keysOf?, get?_register, keysOf?]
  split
  · cases r.get? x <;> rfl
  · rfl

/-! ### All peers but one -/

theorem mem_addressesExcluding :
    a ∈ r.addressesExcluding id ↔ ∃ x, x ≠ id ∧ r.addressOf? x = some a := by
  simp only [addressesExcluding, List.mem_map, List.mem_filter, decide_eq_true_iff, Prod.exists,
    Table.mem_entries_iff, addressOf?_eq_some_iff, get?]
  grind

theorem Sound.mem_addressesExcluding_iff (h : r.Sound) :
    a ∈ r.addressesExcluding id ↔ (∃ x, r.addressOf? x = some a) ∧ r.resolve a ≠ id := by
  rw [mem_addressesExcluding]
  constructor
  · rintro ⟨x, hx, ha⟩
    exact ⟨⟨x, ha⟩, (h x a ha).symm ▸ hx⟩
  · rintro ⟨⟨x, ha⟩, hne⟩
    exact ⟨x, h x a ha ▸ hne, ha⟩

/-- The ids tell the addresses apart. -/
theorem Sound.nodup_addressesExcluding (h : r.Sound) (id : AssociationId) :
    (r.addressesExcluding id).Nodup := by
  have hids : (r.addressesExcluding id).map r.resolve =
      (r.peers.entries.filter fun e => e.1 ≠ id).map Prod.fst := by
    rw [addressesExcluding, List.map_map]
    refine List.map_congr_left fun e he => ?_
    have hentry := Table.mem_entries_iff.1 (List.mem_filter.1 he).1
    exact h e.1 _ (addressOf?_eq_some_iff.2 ⟨e.2, hentry, rfl⟩)
  have hsub : ((r.peers.entries.filter fun e => e.1 ≠ id).map Prod.fst).Sublist
      (r.peers.entries.map Prod.fst) := List.filter_sublist.map Prod.fst
  exact List.Nodup.of_map r.resolve (hids ▸ hsub.nodup r.peers.nodup)

end MediaSocket.Registry
