import MediaSocket.Table
import Mathlib.Data.Set.Card

/-! The size of a table counts the keys that it has a value under. -/

namespace MediaSocket.Table

variable {κ α : Type} [DecidableEq κ]

theorem contains_iff {t : Table κ α} {k : κ} : t.contains k = true ↔ ∃ a, t.get? k = some a :=
  Option.isSome_iff_exists

theorem contains_eq_false_iff {t : Table κ α} {k : κ} :
    t.contains k = false ↔ t.get? k = none :=
  Option.isSome_eq_false_iff.trans Option.isNone_iff_eq_none

theorem mem_keys_iff {t : Table κ α} {k : κ} : k ∈ t.keys ↔ t.contains k = true := by
  simp only [keys, List.mem_map, Prod.exists, exists_and_right, exists_eq_right, mem_entries_iff,
    contains_iff]

theorem put_of_find {k : κ} {a : α} {l : List (κ × α)} (h : find k l = some a) :
    put k a l = l := by
  induction l with
  | nil => simp [find] at h
  | cons e rest ih =>
    obtain ⟨k', a'⟩ := e
    by_cases hk : k' = k
    · subst hk
      simp only [find, if_true, Option.some.injEq] at h
      simp [put, h]
    · simp only [find, hk, if_false] at h
      simp [put, hk, ih h]

theorem insert_eq_self {t : Table κ α} {k : κ} {a : α} (h : t.get? k = some a) :
    t.insert k a = t := by
  simp only [insert, put_of_find h]

theorem size_eq_ncard (t : Table κ α) : t.size = {k | t.contains k = true}.ncard := by
  have hkeys : {k | t.contains k = true} = (t.keys.toFinset : Set κ) := by
    ext k
    rw [Set.mem_ofPred_eq, List.coe_toFinset, Set.mem_ofPred_eq, mem_keys_iff]
  rw [hkeys, Set.ncard_coe_finset, List.toFinset_card_of_nodup (l := t.keys) t.nodup, keys,
    List.length_map, size]

theorem size_filter (t : Table κ α) (p : κ × α → Bool) :
    (t.filter p).size = {k | ∃ a, t.get? k = some a ∧ p (k, a) = true}.ncard := by
  rw [size_eq_ncard]
  congr 1
  ext k
  simp only [Set.mem_ofPred_eq, contains_iff, get?_filter, Option.filter_eq_some_iff]

theorem size_sub_size_filter (t : Table κ α) (p : κ × α → Bool) :
    t.size - (t.filter p).size = {k | ∃ a, t.get? k = some a ∧ p (k, a) = false}.ncard := by
  have hsplit : t.size = (t.filter p).size + (t.filter fun e => !p e).size :=
    List.length_eq_length_filter_add p
  rw [hsplit, Nat.add_sub_cancel_left, size_filter]
  simp only [Bool.not_eq_true']

/-- The keys are distinct, so that at most one entry goes. -/
theorem size_erase (t : Table κ α) (k : κ) :
    (t.erase k).size + (if t.contains k = true then 1 else 0) = t.size := by
  have hsplit : t.size = (t.erase k).size + (t.entries.filter fun e => !decide (e.1 ≠ k)).length :=
    List.length_eq_length_filter_add _
  have hcount : (t.entries.filter fun e => !decide (e.1 ≠ k)).length = t.keys.count k := by
    rw [keys, List.count, List.countP_map, List.countP_eq_length_filter]
    congr 2
    funext e
    simp [Function.comp, beq_eq_decide]
  have hmem : t.keys.count k = if t.contains k = true then 1 else 0 := by
    show (t.entries.map Prod.fst).count k = _
    rw [t.nodup.count]
    exact if_congr mem_keys_iff rfl rfl
  omega

end MediaSocket.Table
