import MediaSocket.Text.Numeral
import Mathlib.Algebra.Group.Nat.Defs
import Mathlib.Data.List.Basic

/-! Numerals that are written are read back, if what follows them does not start with a digit. -/

namespace MediaSocket.Text

/-- The characters `cs` are the digits `ds` of the number `n`, without leading zeros. -/
structure Spells (base n : Nat) (cs : List Char) (ds : List Nat) : Prop where
  digits : cs.map (digit? base) = ds.map some
  value : ofDigits base ds = n
  nonempty : ds ≠ []
  leading : ds.head? = some 0 → ds = [0]

/-- No digit goes on where `rest` starts. -/
def NoDigit (base : Nat) (rest : List Char) : Prop := ∀ c ∈ rest.head?, digit? base c = none

variable {base n : Nat} {cs rest : List Char} {ds : List Nat}

theorem digit?_digitChar (hn : n < base) (hbase : base ≤ 16) : digit? base n.digitChar = some n := by
  have hdigits : ∀ d < 16, digit? 16 d.digitChar = some d := by decide
  have hn16 : digit? 16 n.digitChar = some n := hdigits n (by omega)
  rw [digit?, Option.filter_eq_some_iff] at hn16 ⊢
  exact ⟨hn16.1, decide_eq_true hn⟩

theorem digit?_mono {base' : Nat} {c : Char} {d : Nat} (hbase : base ≤ base')
    (h : digit? base c = some d) : digit? base' c = some d := by
  rw [digit?, Option.filter_eq_some_iff, decide_eq_true_eq] at h ⊢
  exact ⟨h.1, by omega⟩

theorem noDigit_cons {c : Char} (hc : digit? base c = none) (rest : List Char) :
    NoDigit base (c :: rest) := by
  rintro c' ⟨⟩
  exact hc

theorem NoDigit.mono {base' : Nat} (hbase : base ≤ base') (h : NoDigit base' rest) :
    NoDigit base rest := by
  intro c hc
  cases hdigit : digit? base c with
  | none => rfl
  | some d =>
    have hnone := h c hc
    rw [digit?_mono hbase hdigit] at hnone
    cases hnone

theorem ofDigits_concat (base : Nat) (ds : List Nat) (d : Nat) :
    ofDigits base (ds ++ [d]) = ofDigits base ds * base + d := by
  rw [ofDigits, List.foldl_concat, ofDigits]

theorem Spells.concat {m d : Nat} (h : Spells base m cs ds) (hm : m ≠ 0) (hd : d < base)
    (hbase : base ≤ 16) : Spells base (m * base + d) (cs ++ [d.digitChar]) (ds ++ [d]) := by
  refine ⟨?_, ?_, by simp, fun hhead => ?_⟩
  · rw [List.map_append, List.map_append, h.digits, List.map_singleton, List.map_singleton,
      digit?_digitChar hd hbase]
  · rw [ofDigits_concat, h.value]
  · rw [List.head?_append_of_ne_nil _ h.nonempty] at hhead
    have hzero : m = 0 := by
      rw [← h.value, h.leading hhead]
      simp [ofDigits]
    exact absurd hzero hm

theorem exists_spells (hbase : 1 < base) (hbase' : base ≤ 16) (n : Nat) :
    ∃ ds, Spells base n (Nat.toDigits base n) ds := by
  induction n using Nat.strongRecOn with
  | ind n ih =>
    rw [Nat.toDigits_eq_if hbase]
    split
    · rename_i hn
      refine ⟨[n], ?_, ?_, by simp, ?_⟩
      · rw [List.map_singleton, List.map_singleton, digit?_digitChar hn hbase']
      · simp [ofDigits]
      · intro hzero
        rw [Option.some.inj hzero]
    · rename_i hn
      have hpos : 0 < n / base := Nat.div_pos (by omega) (by omega)
      obtain ⟨ds, hds⟩ := ih (n / base) (Nat.div_lt_self (by omega) hbase)
      have hconcat := hds.concat (by omega) (Nat.mod_lt n (by omega)) hbase'
      rw [Nat.div_add_mod'] at hconcat
      exact ⟨_, hconcat⟩

theorem Spells.digit_of_mem {c : Char} (h : Spells base n cs ds) (hc : c ∈ cs) :
    ∃ d, digit? base c = some d := by
  have hdigit : digit? base c ∈ ds.map some := h.digits ▸ List.mem_map_of_mem hc
  obtain ⟨d, -, hd⟩ := List.mem_map.1 hdigit
  exact ⟨d, hd.symm⟩

theorem ne_of_digit? {c : Char} {d : Nat} (hc : digit? base c = some d) (mark : Char)
    (hmark : digit? base mark = none) : c ≠ mark := by
  rintro rfl
  rw [hmark] at hc
  cases hc

theorem takeDigits_append (h : cs.map (digit? base) = ds.map some) (hrest : NoDigit base rest) :
    takeDigits base (cs ++ rest) = (ds, rest) := by
  induction cs generalizing ds with
  | nil =>
    obtain rfl : ds = [] := by simpa using h.symm
    cases rest with
    | nil => rfl
    | cons c rest =>
      rw [List.nil_append, takeDigits, hrest c rfl]
  | cons c cs ih =>
    cases ds with
    | nil => simp at h
    | cons d ds =>
      simp only [List.map_cons, List.cons.injEq] at h
      rw [List.cons_append, takeDigits, h.1, ih h.2]

theorem Spells.length_eq (h : Spells base n cs ds) : cs.length = ds.length := by
  have hlength := congrArg List.length h.digits
  simpa using hlength

/-- A numeral without leading zeros is read whatever its form says about those. -/
theorem Spells.numeral_append {form : NumeralForm} (h : Spells form.base n cs ds)
    (hmax : ∀ m ∈ form.maxDigits, cs.length ≤ m) (hbound : n < form.bound)
    (hrest : NoDigit form.base rest) : numeral form (cs ++ rest) = some (n, rest) := by
  have hmax : form.maxDigits.any (· < ds.length) = false := by
    cases hform : form.maxDigits with
    | none => rfl
    | some m =>
      have hm := hmax m hform
      rw [h.length_eq] at hm
      simpa using hm
  have hleading : (ds.head? == some 0 && decide (1 < ds.length)) = false := by
    rw [Bool.and_eq_false_iff, beq_eq_false_iff_ne, decide_eq_false_iff_not, or_iff_not_imp_left]
    intro hzero
    rw [h.leading (Decidable.not_not.1 hzero)]
    decide
  have hempty : ds.isEmpty = false := List.isEmpty_eq_false_iff.2 h.nonempty
  simp only [numeral, takeDigits_append h.digits hrest, h.value]
  rw [if_neg]
  simp [hmax, hempty, Bool.and_assoc, hleading, hbound]

theorem numeral_toDigits {form : NumeralForm} (hbase : 1 < form.base ∧ form.base ≤ 16)
    (hmax : ∀ m ∈ form.maxDigits, 0 < m ∧ n < form.base ^ m) (hbound : n < form.bound)
    (hrest : NoDigit form.base rest) :
    numeral form (Nat.toDigits form.base n ++ rest) = some (n, rest) := by
  obtain ⟨ds, hds⟩ := exists_spells hbase.1 hbase.2 n
  refine hds.numeral_append (fun m hm => ?_) hbound hrest
  obtain ⟨hpos, hn⟩ := hmax m hm
  exact (Nat.length_toDigits_le_iff hbase.1 hpos).2 hn

theorem numeral_eq_some {form : NumeralForm} (h : numeral form cs = some (n, rest)) :
    rest = (takeDigits form.base cs).2 := by
  simp only [numeral] at h
  split at h
  · cases h
  · exact (Prod.mk.inj (Option.some.inj h)).2.symm

/-- Digits are not taken from beyond a place where none goes on. -/
theorem takeDigits_suffix (cs : List Char) (hrest : NoDigit base rest) :
    ∃ tail, tail <:+ cs ∧ (takeDigits base (cs ++ rest)).2 = tail ++ rest := by
  induction cs with
  | nil =>
    have htake := @takeDigits_append base [] rest [] rfl hrest
    exact ⟨[], List.suffix_rfl, by rw [htake, List.nil_append]⟩
  | cons c cs ih =>
    rw [List.cons_append, takeDigits]
    split
    · obtain ⟨tail, hsuffix, htail⟩ := ih
      exact ⟨tail, hsuffix.trans (List.suffix_cons c cs), htail⟩
    · exact ⟨c :: cs, List.suffix_rfl, rfl⟩

theorem numeral_nil (form : NumeralForm) (hrest : NoDigit form.base rest) :
    numeral form rest = none := by
  have htake := @takeDigits_append form.base [] rest [] rfl hrest
  rw [List.nil_append] at htake
  simp only [numeral, htake]
  rfl

/-! ### Texts in a row -/

theorem length_le_intercalate {α : Type} (sep : List α) {texts : List (List α)}
    (h : ∀ text ∈ texts, text ≠ []) : texts.length ≤ (sep.intercalate texts).length := by
  induction texts with
  | nil => exact Nat.zero_le _
  | cons x rest ih =>
    obtain ⟨hx, hrest⟩ := List.forall_mem_cons.1 h
    have hpos := List.length_pos_iff.2 hx
    have ih := ih hrest
    cases rest with
    | nil => rwa [List.intercalate_singleton]
    | cons y rest =>
      rw [List.intercalate_cons_cons, List.length_append, List.length_append, List.length_cons]
      omega

end MediaSocket.Text
