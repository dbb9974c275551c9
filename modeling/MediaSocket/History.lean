/-! What events have brought about, read off the list of them, the latest last. -/

namespace MediaSocket

variable {ε α : Type}

/-- The last of the values that events give. -/
def latest? (value? : ε → Option α) (events : List ε) : Option α :=
  (events.filterMap value?).getLast?

/-- Every event is all right after the events before it. -/
def Always (ok : List ε → ε → Prop) (events : List ε) : Prop :=
  ∀ front e back, events = front ++ e :: back → ok front e

/-- No event of `back`, which happened after `front`, ends it. What an event ends may depend on the
events before. -/
def Spared (ends : List ε → ε → Prop) (front back : List ε) : Prop :=
  ∀ mid e rest, back = mid ++ e :: rest → ¬ends (front ++ mid) e

/-- Some event has started it, and none after that has ended it. -/
def Lasts (starts : ε → Prop) (ends : List ε → ε → Prop) (events : List ε) : Prop :=
  ∃ front e back, events = front ++ e :: back ∧ starts e ∧ Spared ends (front ++ [e]) back

theorem latest?_concat (value? : ε → Option α) (events : List ε) (e : ε) :
    latest? value? (events ++ [e]) = (value? e).or (latest? value? events) := by
  rw [latest?, latest?, List.filterMap_append, List.getLast?_append]
  cases h : value? e <;> simp [h]

/-- The latest of times that never go back is not before any of them. -/
theorem le_of_latest? {time? : ε → Option Nat} {events : List ε}
    (chronological : (events.filterMap time?).Pairwise (· ≤ ·)) {e : ε} {t last : Nat}
    (mem : e ∈ events) (ht : time? e = some t) (hlast : latest? time? events = some last) :
    t ≤ last := by
  obtain ⟨before, hbefore⟩ := List.getLast?_eq_some_iff.1 hlast
  have hmem : t ∈ before ++ [last] := hbefore ▸ List.mem_filterMap.2 ⟨e, mem, ht⟩
  rw [hbefore, List.pairwise_append] at chronological
  rcases List.mem_append.1 hmem with hmem | hmem
  · exact chronological.2.2 t hmem last (List.mem_singleton_self last)
  · exact Nat.le_of_eq (List.mem_singleton.1 hmem)

variable {starts : ε → Prop} {ends : List ε → ε → Prop}

theorem spared_nil (front : List ε) : Spared ends front [] := by
  intro mid e rest h
  simp at h

theorem Spared.of_append {front back rest : List ε} (h : Spared ends front (back ++ rest)) :
    Spared ends front back := by
  rintro mid e rest' rfl
  exact h mid e (rest' ++ rest) (by simp)

/-- An event of a list that one more event is added to is that event, or stands before it. -/
theorem split_concat {events front back : List ε} {e x : ε}
    (h : events ++ [e] = front ++ x :: back) :
    (events = front ∧ e = x ∧ back = []) ∨
      ∃ back', events = front ++ x :: back' ∧ back = back' ++ [e] := by
  rcases List.eq_nil_or_concat back with rfl | ⟨back, last, rfl⟩
  · obtain ⟨rfl, hlast⟩ := List.append_inj' h rfl
    exact .inl ⟨rfl, List.singleton_inj.1 hlast, rfl⟩
  · rw [List.concat_eq_append, ← List.cons_append, ← List.append_assoc] at h
    obtain ⟨rfl, hlast⟩ := List.append_inj' h rfl
    exact .inr ⟨back, rfl, by rw [List.concat_eq_append, hlast]⟩

theorem always_nil (ok : List ε → ε → Prop) : Always ok [] := by
  intro front e back h
  simp at h

theorem always_concat {ok : List ε → ε → Prop} {events : List ε} {e : ε} :
    Always ok (events ++ [e]) ↔ Always ok events ∧ ok events e := by
  constructor
  · intro h
    refine ⟨?_, h events e [] rfl⟩
    rintro front x back rfl
    exact h front x (back ++ [e]) (by simp)
  · rintro ⟨hevents, he⟩ front x back hsplit
    obtain ⟨rfl, rfl, -⟩ | ⟨back', hsplit, -⟩ := split_concat hsplit
    · exact he
    · exact hevents front x back' hsplit

theorem spared_concat {front back : List ε} {e : ε} :
    Spared ends front (back ++ [e]) ↔ Spared ends front back ∧ ¬ends (front ++ back) e :=
  always_concat

theorem not_lasts_nil : ¬Lasts starts ends [] := by
  rintro ⟨front, e, back, h, -⟩
  simp at h

/-- After one more event: that event has started it, or it lasted and the event has not ended it. -/
theorem lasts_concat {events : List ε} {e : ε} :
    Lasts starts ends (events ++ [e]) ↔
      starts e ∨ Lasts starts ends events ∧ ¬ends events e := by
  constructor
  · rintro ⟨front, first, back, hsplit, hstarts, hspared⟩
    obtain ⟨-, rfl, -⟩ | ⟨back, rfl, rfl⟩ := split_concat hsplit
    · exact .inl hstarts
    · obtain ⟨hspared, hlast⟩ := spared_concat.1 hspared
      rw [List.append_assoc] at hlast
      exact .inr ⟨⟨front, first, back, rfl, hstarts, hspared⟩, hlast⟩
  · rintro (hstarts | ⟨⟨front, first, back, rfl, hstarts, hspared⟩, hlast⟩)
    · exact ⟨events, e, [], rfl, hstarts, spared_nil _⟩
    · refine ⟨front, first, back ++ [e], by simp, hstarts, spared_concat.2 ⟨hspared, ?_⟩⟩
      rw [List.append_assoc]
      exact hlast

end MediaSocket
