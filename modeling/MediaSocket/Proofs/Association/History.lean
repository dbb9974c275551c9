import MediaSocket.Association.History
import MediaSocket.Proofs.Table

/-! After any changes a registry knows exactly what the list of them says. Every change is followed for
one id at a time. -/

namespace MediaSocket.Registry

variable {width : IdWidth} {id : AssociationId}

theorem sighting?_register {a : Address} (howner : AssociationId.derive a width = id) (now : Time) :
    (Change.register a now).sighting? width id = some now := by
  rw [Change.sighting?, if_pos howner]

/-! ### Lives -/

section Life

variable {changes front back : List Change} {a : Address} {began : Time}

theorem Life.known (h : Life width id changes front a began back) : Known width id changes :=
  ⟨front, .register a began, back, h.split, h.owner, h.spared⟩

theorem Life.concat {c : Change} (h : Life width id changes front a began back)
    (hc : ¬Evicts width id changes c) :
    Life width id (changes ++ [c]) front a began (back ++ [c]) := by
  refine ⟨by rw [h.split]; simp, h.owner, h.fresh, spared_concat.2 ⟨h.spared, ?_⟩⟩
  rw [List.append_assoc, List.singleton_append, ← h.split]
  exact hc

/-- A sighting of an id that is not known begins a life. -/
theorem Life.begin (howner : AssociationId.derive a width = id) (hfresh : ¬Known width id changes) :
    Life width id (changes ++ [.register a began]) changes a began [] :=
  ⟨rfl, howner, hfresh, spared_nil _⟩

/-- No life begins within another one, because the id is known there. -/
theorem Life.not_within {front' back' mid : List Change} {a' : Address} {began' : Time}
    (h : Life width id changes front a began back)
    (h' : Life width id changes front' a' began' back') (hfront : front' = front ++ mid)
    (hback : .register a began :: back = mid ++ .register a' began' :: back') : mid = [] := by
  cases mid with
  | nil => rfl
  | cons c mid =>
    obtain ⟨rfl, rfl⟩ := List.cons.inj hback
    exact absurd ⟨front, .register a began, mid, hfront, h.owner, h.spared.of_append⟩ h'.fresh

/-- At most one life lasts to the end. -/
theorem Life.unique {front' back' : List Change} {a' : Address} {began' : Time}
    (h : Life width id changes front a began back)
    (h' : Life width id changes front' a' began' back') :
    front = front' ∧ a = a' ∧ began = began' ∧ back = back' := by
  have hfront : front = front' := by
    rcases List.append_eq_append_iff.1 (h.split.symm.trans h'.split) with
      ⟨mid, hfront, hback⟩ | ⟨mid, hfront, hback⟩
    · rw [hfront, h.not_within h' hfront hback, List.append_nil]
    · rw [hfront, h'.not_within h hfront hback, List.append_nil]
  subst hfront
  have hback := List.append_cancel_left (h.split.symm.trans h'.split)
  simpa [and_assoc] using hback

end Life

/-! ### One change, seen from one id -/

/-- What becomes of the peer with an id in a change. -/
def peerAfter (width : IdWidth) (id : AssociationId) (known : Option Peer) : Change → Option Peer
  | .register a now => if AssociationId.derive a width = id then some (seen known a now) else known
  | .setKeys x keys => if x = id then known.map fun p => { p with keys := some keys } else known
  | .prune maxIdle now => known.filter fun p => now - p.lastSeen < maxIdle

theorem width_change (r : Registry) (c : Change) : (r.change c).width = r.width := by
  cases c with
  | register a now => rfl
  | setKeys x keys =>
    rw [change, setKeys?]
    cases r.get? x <;> rfl
  | prune maxIdle now => rfl

theorem get?_change (r : Registry) (c : Change) (id : AssociationId) :
    (r.change c).get? id = peerAfter r.width id (r.get? id) c := by
  cases c with
  | register a now =>
    simp only [change, register, get?, Table.get?_insert, peerAfter, resolve]
    split
    · rename_i howner
      rw [howner]
    · rfl
  | setKeys x keys =>
    simp only [change, setKeys?, peerAfter]
    cases hx : r.get? x with
    | none =>
      split
      · rename_i hid
        rw [← hid, hx]
        exact hx
      · rfl
    | some p =>
      simp only [Option.map_some, Option.getD_some, get?, Table.get?_insert]
      split
      · rename_i hid
        rw [← hid]
        change _ = (r.get? x).map _
        rw [hx, Option.map_some]
      · rfl
  | prune maxIdle now => exact Table.get?_filter ..

/-! ### All changes -/

/-- What is known of an id is what the changes say about it. -/
inductive Describes (width : IdWidth) (id : AssociationId) (changes : List Change) :
    Option Peer → Prop
  | unknown (hunknown : ¬Known width id changes) : Describes width id changes none
  | alive {p : Peer} {front back : List Change}
      (hlife : Life width id changes front p.address p.firstSeen back)
      (hseen : latest? (Change.sighting? width id) changes = some p.lastSeen)
      (hkeys : latest? (Change.keysFor? id) back = p.keys) : Describes width id changes (some p)

section Describes

variable {changes : List Change} {known : Option Peer}

theorem Describes.isSome_iff (h : Describes width id changes known) :
    known.isSome = true ↔ Known width id changes := by
  cases h with
  | unknown hunknown => exact ⟨fun hsome => (nomatch hsome), fun hknown => absurd hknown hunknown⟩
  | alive hlife => exact ⟨fun _ => hlife.known, fun _ => rfl⟩

theorem Describes.exists_life (h : Describes width id changes known)
    (hknown : Known width id changes) :
    ∃ front a began back, Life width id changes front a began back := by
  cases h with
  | unknown hunknown => exact absurd hknown hunknown
  | alive hlife => exact ⟨_, _, _, _, hlife⟩

theorem Describes.of_life (h : Describes width id changes known) {front back : List Change}
    {a : Address} {began : Time} (hlife : Life width id changes front a began back) :
    ∃ seen, latest? (Change.sighting? width id) changes = some seen ∧
      known = some ⟨a, latest? (Change.keysFor? id) back, began, seen⟩ := by
  cases h with
  | unknown hunknown => exact absurd hlife.known hunknown
  | @alive p _ _ hlife' hseen hkeys =>
    obtain ⟨-, rfl, rfl, rfl⟩ := hlife'.unique hlife
    exact ⟨p.lastSeen, hseen, by rw [hkeys]⟩

theorem Describes.unseen (h : Describes width id changes none) {c : Change}
    (hc : ¬Sights width id c) : Describes width id (changes ++ [c]) none := by
  cases h with
  | unknown hunknown =>
    refine .unknown fun hknown => ?_
    rcases lasts_concat.1 hknown with hsights | ⟨hbefore, -⟩
    · exact hc hsights
    · exact hunknown hbefore

/-- A life goes on in every change that does not end it. -/
theorem Describes.keep {p : Peer} (h : Describes width id changes (some p)) {c : Change}
    (hc : ¬Evicts width id changes c) :
    Describes width id (changes ++ [c]) (some
      { p with
        lastSeen := (c.sighting? width id).getD p.lastSeen
        keys := (c.keysFor? id).or p.keys }) := by
  cases h with
  | alive hlife hseen hkeys =>
    refine .alive (hlife.concat hc) ?_ ?_
    · rw [latest?_concat, hseen]
      cases c.sighting? width id <;> rfl
    · rw [latest?_concat, hkeys]

theorem Describes.register (h : Describes width id changes known) (a : Address) (now : Time) :
    Describes width id (changes ++ [.register a now])
      (peerAfter width id known (.register a now)) := by
  by_cases howner : AssociationId.derive a width = id
  · rw [peerAfter, if_pos howner]
    cases known with
    | none =>
      cases h with
      | unknown hunknown =>
        refine .alive (.begin howner hunknown) ?_ rfl
        rw [latest?_concat, sighting?_register howner]
        rfl
    | some p =>
      have hkeep := h.keep (c := .register a now) (fun hevicts => hevicts)
      rw [sighting?_register howner] at hkeep
      exact hkeep
  · rw [peerAfter, if_neg howner]
    cases known with
    | none => exact h.unseen howner
    | some p =>
      have hkeep := h.keep (c := .register a now) (fun hevicts => hevicts)
      rw [Change.sighting?, if_neg howner] at hkeep
      exact hkeep

theorem Describes.setKeys (h : Describes width id changes known) (x : AssociationId)
    (keys : Srtp.Negotiated) :
    Describes width id (changes ++ [.setKeys x keys])
      (peerAfter width id known (.setKeys x keys)) := by
  cases known with
  | none =>
    rw [peerAfter, Option.map_none, ite_self]
    exact h.unseen fun hsights => hsights
  | some p =>
    have hkeep := h.keep (c := .setKeys x keys) (fun hevicts => hevicts)
    rw [Change.keysFor?] at hkeep
    rw [peerAfter]
    by_cases hid : x = id
    · rw [if_pos hid] at hkeep ⊢
      exact hkeep
    · rw [if_neg hid] at hkeep ⊢
      exact hkeep

theorem Describes.prune (h : Describes width id changes known) (maxIdle : Span) (now : Time) :
    Describes width id (changes ++ [.prune maxIdle now])
      (peerAfter width id known (.prune maxIdle now)) := by
  cases h with
  | unknown hunknown => exact Describes.unseen (.unknown hunknown) fun hsights => hsights
  | @alive p _ _ hlife hseen hkeys =>
    rw [peerAfter, Option.filter_some]
    by_cases hrecent : now - p.lastSeen < maxIdle
    · rw [if_pos (decide_eq_true hrecent)]
      refine Describes.keep (.alive hlife hseen hkeys) (c := .prune maxIdle now) ?_
      rintro ⟨seen, hlatest, hidle⟩
      cases hseen.symm.trans hlatest
      exact absurd hrecent (Nat.not_lt.2 hidle)
    · rw [if_neg (by simpa using hrecent)]
      refine .unknown fun hknown => ?_
      rcases lasts_concat.1 hknown with hsights | ⟨-, hevicts⟩
      · exact hsights
      · exact hevicts ⟨p.lastSeen, hseen, Nat.le_of_not_lt hrecent⟩

theorem Describes.change (h : Describes width id changes known) (c : Change) :
    Describes width id (changes ++ [c]) (peerAfter width id known c) := by
  cases c with
  | register a now => exact h.register a now
  | setKeys x keys => exact h.setKeys x keys
  | prune maxIdle now => exact h.prune maxIdle now

end Describes

theorem changeAll_concat (r : Registry) (changes : List Change) (c : Change) :
    r.changeAll (changes ++ [c]) = (r.changeAll changes).change c := by
  rw [changeAll, List.foldl_append]
  rfl

theorem width_changeAll (r : Registry) (changes : List Change) :
    (r.changeAll changes).width = r.width := by
  induction changes using List.reverseRecOn with
  | nil => rfl
  | append_singleton changes c ih => rw [changeAll_concat, width_change, ih]

theorem describes_changeAll (width : IdWidth) (id : AssociationId) (changes : List Change) :
    Describes width id changes (((empty width).changeAll changes).get? id) := by
  induction changes using List.reverseRecOn with
  | nil => exact .unknown not_lasts_nil
  | append_singleton changes c ih =>
    rw [changeAll_concat, get?_change, width_changeAll]
    exact ih.change c

theorem remembers_changeAll (width : IdWidth) (changes : List Change) :
    Remembers width changes ((empty width).changeAll changes) := by
  have hdescribes := fun id => describes_changeAll width id changes
  refine ⟨width_changeAll .., ?_, ?_, ?_⟩
  · intro id
    exact (hdescribes id).isSome_iff
  · intro id hknown
    exact (hdescribes id).exists_life hknown
  · intro id front a began back hlife
    obtain ⟨seen, hseen, hpeer⟩ := (hdescribes id).of_life hlife
    rw [addressOf?, keysOf?, hpeer]
    exact ⟨rfl, rfl, _, rfl, rfl, hseen⟩

/-! ### What follows for the operations -/

theorem Chronological.sightings {changes : List Change} (h : Chronological changes) :
    (changes.filterMap (Change.sighting? width id)).Pairwise (· ≤ ·) := by
  have htime : ∀ {c : Change} {t : Time}, c.sighting? width id = some t → c.time? = some t := by
    intro c t hc
    cases c with
    | register a now =>
      rw [Change.sighting?, Option.ite_none_right_eq_some] at hc
      exact hc.2
    | setKeys x keys => exact nomatch hc
    | prune maxIdle now => exact nomatch hc
  refine List.pairwise_filterMap.2 ((List.pairwise_filterMap.1 h).imp ?_)
  intro c c' hle t ht t' ht'
  exact hle t (htime ht) t' (htime ht')

/-- Every peer is known under the id of its address, and was first seen before it was last seen. -/
theorem Remembers.sound {changes : List Change} {r : Registry} (h : Remembers width changes r)
    (chronological : Chronological changes) {p : Peer} (hp : r.get? id = some p) :
    r.resolve p.address = id ∧ p.firstSeen ≤ p.lastSeen := by
  have hcontains : r.contains id = true := Table.contains_iff.2 ⟨p, hp⟩
  obtain ⟨front, a, began, back, hlife⟩ := h.alive id ((h.contains_iff id).1 hcontains)
  obtain ⟨haddress, -, p', hp', rfl, hseen⟩ := h.peer id front a began back hlife
  rw [hp] at hp'
  cases hp'
  rw [addressOf?, hp] at haddress
  cases haddress
  have hmem : .register p.address p.firstSeen ∈ changes := by
    rw [hlife.split]
    exact List.mem_append_right _ (List.mem_cons_self ..)
  rw [resolve, h.width_eq]
  exact ⟨hlife.owner,
    le_of_latest? chronological.sightings hmem (sighting?_register hlife.owner _) hseen⟩

theorem setKeys?_of_unknown {r : Registry} (h : r.contains id = false) (keys : Srtp.Negotiated) :
    r.setKeys? id keys = none ∧ r.change (.setKeys id keys) = r := by
  have hnone : r.setKeys? id keys = none := by
    rw [setKeys?, Option.map_eq_none_iff]
    exact Table.contains_eq_false_iff.1 h
  exact ⟨hnone, by rw [change, hnone]; rfl⟩

theorem get?_prune (r : Registry) (maxIdle : Span) (now : Time) (id : AssociationId) (p : Peer) :
    (r.prune maxIdle now).get? id = some p ↔
      r.get? id = some p ∧ now - p.lastSeen < maxIdle := by
  rw [get?, prune, Table.get?_filter, Option.filter_eq_some_iff, decide_eq_true_iff]
  rfl

theorem size_prune (r : Registry) (maxIdle : Span) (now : Time) :
    r.size - (r.prune maxIdle now).size =
      {id | ∃ p, r.get? id = some p ∧ maxIdle ≤ now - p.lastSeen}.ncard := by
  rw [size, size, prune, Table.size_sub_size_filter]
  simp only [decide_eq_false_iff_not, Nat.not_lt]
  rfl

theorem keysOf?_register_of_unknown {r : Registry} {a : Address}
    (h : r.contains (r.resolve a) = false) (now : Time) :
    (r.register a now).keysOf? (r.resolve a) = none := by
  have hnone : r.get? (r.resolve a) = none := Table.contains_eq_false_iff.1 h
  rw [keysOf?, get?, register, Table.get?_insert, if_pos rfl, hnone]
  rfl

/-- After any changes at times that never go back, a registry that was empty knows exactly what they say
about every id. Setting keys counts for known ids only, a prune removes exactly the ids that have been
silent for long enough, and an id that is seen again after that has no keys. -/
theorem follows_history (width : IdWidth) (changes : List Change)
    (chronological : Chronological changes) :
    let r := (empty width).changeAll changes
    Remembers width changes r ∧
      (∀ id p, r.get? id = some p → r.resolve p.address = id ∧ p.firstSeen ≤ p.lastSeen) ∧
      (∀ id keys, r.contains id = false →
        r.setKeys? id keys = none ∧ r.change (.setKeys id keys) = r) ∧
      (∀ maxIdle now,
        (∀ id p, (r.prune maxIdle now).get? id = some p ↔
          r.get? id = some p ∧ now - p.lastSeen < maxIdle) ∧
        r.size - (r.prune maxIdle now).size =
          {id | ∃ p, r.get? id = some p ∧ maxIdle ≤ now - p.lastSeen}.ncard) ∧
      ∀ a now, r.contains (r.resolve a) = false →
        (r.register a now).keysOf? (r.resolve a) = none := by
  intro r
  have hremembers : Remembers width changes r := remembers_changeAll width changes
  refine ⟨hremembers, ?_, ?_, ?_, ?_⟩
  · intro id p hp
    exact hremembers.sound chronological hp
  · intro id keys hunknown
    exact setKeys?_of_unknown hunknown keys
  · intro maxIdle now
    exact ⟨get?_prune r maxIdle now, size_prune r maxIdle now⟩
  · intro a now hunknown
    exact keysOf?_register_of_unknown hunknown now

/-- A prune that finds a peer silent ends its life, and keys alone begin no other. -/
theorem not_known_of_silent {before : List Change} {a : Address} {seen maxIdle now : Time}
    (howner : AssociationId.derive a width = id) (hidle : maxIdle ≤ now - seen)
    (keys : Srtp.Negotiated) :
    ¬Known width id (before ++ [.register a seen] ++ [.prune maxIdle now] ++ [.setKeys id keys]) := by
  have hsilent : Evicts width id (before ++ [.register a seen]) (.prune maxIdle now) :=
    ⟨seen, by rw [latest?_concat, sighting?_register howner]; rfl, hidle⟩
  intro h
  obtain h | ⟨h, -⟩ := lasts_concat.1 h
  · exact h
  · obtain h | ⟨-, h⟩ := lasts_concat.1 h
    · exact h
    · exact h hsilent

/-- A peer that falls silent for long enough starts over: neither the keys that it had nor those that
come while it is away are kept. -/
theorem follows_history_evicted :
    let a : Address := .v4 .loopback 4000
    let id := AssociationId.derive a .wide
    let keys : Srtp.Negotiated := ⟨.aes128CmSha1_80, ⟨[1], [2], [3], [4]⟩⟩
    let away : List Change :=
      [.register a 0, .setKeys id keys] ++ [.register a 5] ++ [.prune 10 20] ++ [.setKeys id keys]
    let r := (empty .wide).changeAll (away ++ .register a 30 :: [.register a 35])
    r.addressOf? id = some a ∧ r.keysOf? id = none ∧
      ∃ p, r.get? id = some p ∧ p.firstSeen = 30 := by
  intro a id keys away r
  have hfresh : ¬Known .wide id away := not_known_of_silent rfl (by decide) keys
  have hspared : Spared (Evicts .wide id) (away ++ [.register a 30]) ([] ++ [.register a 35]) :=
    spared_concat.2 ⟨spared_nil _, fun h => h⟩
  have htimes : Chronological (away ++ .register a 30 :: [.register a 35]) := by
    change List.Pairwise (· ≤ ·) [0, 5, 20, 30, 35]
    decide
  obtain ⟨hremembers, -⟩ := follows_history .wide _ htimes
  obtain ⟨haddress, hkeys, p, hp, hfirst, -⟩ := 
    hremembers.peer id away a 30 [.register a 35] ⟨rfl, rfl, hfresh, hspared⟩
  exact ⟨haddress, hkeys, p, hp, hfirst⟩

end MediaSocket.Registry
