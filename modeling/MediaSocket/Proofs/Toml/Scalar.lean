import MediaSocket.Proofs.Text.Numeral
import MediaSocket.Toml.Scalar

/-! A number in decimal is read as an integer, not as a time or a float. -/

namespace MediaSocket.Toml

/-- A value ends where `rest` starts: at the end of its line, or at the end of an item of an
array. -/
def Ends (rest : List Char) : Prop := ∃ c cs, rest = c :: cs ∧ (c = '\n' ∨ c = ',' ∨ c = ']')

theorem Ends.ne {mark : Char} {rest : List Char} (h : Ends rest)
    (hmark : mark ≠ '\n' ∧ mark ≠ ',' ∧ mark ≠ ']') : ∃ c cs, rest = c :: cs ∧ c ≠ mark := by
  obtain ⟨hline, hcomma, hbracket⟩ := hmark
  obtain ⟨c, cs, hrest, rfl | rfl | rfl⟩ := h
  · exact ⟨'\n', cs, hrest, hline.symm⟩
  · exact ⟨',', cs, hrest, hcomma.symm⟩
  · exact ⟨']', cs, hrest, hbracket.symm⟩

theorem Ends.expect {mark : Char} {rest : List Char} (h : Ends rest)
    (hmark : mark ≠ '\n' ∧ mark ≠ ',' ∧ mark ≠ ']') : Text.expect mark rest = none := by
  obtain ⟨c, cs, rfl, hc⟩ := h.ne hmark
  exact if_neg hc

namespace Scalar

open Text (digit? ofDigits expect ne_of_digit? noDigit_cons Spells NoDigit decimal)

variable {n : Nat} {cs rest : List Char} {ds : List Nat}

/-! ### Digits -/

def AllDigits (cs : List Char) : Prop := ∀ c ∈ cs, ∃ d, digit? 10 c = some d

theorem isDigit_of_digit? {c : Char} {d : Nat} (h : digit? 10 c = some d) : c.isDigit = true := by
  rw [digit?, Option.filter_eq_some_iff, decide_eq_true_eq] at h
  obtain ⟨hvalue, hd⟩ := h
  rw [Char.isDigit_iff_toNat]
  split_ifs at hvalue with hdigit hlower hupper
  · exact hdigit
  · cases hvalue
    omega
  · cases hvalue
    omega

theorem noDigit_of_ends (h : Ends rest) : NoDigit 10 rest := by
  obtain ⟨c, cs, rfl, rfl | rfl | rfl⟩ := h
  all_goals exact noDigit_cons (by decide) _

/-- A mark that is no digit does not follow part of a numeral. -/
theorem expect_digits (mark : Char) (hmark : digit? 10 mark = none) (hcs : AllDigits cs)
    (hrest : expect mark rest = none) : expect mark (cs ++ rest) = none := by
  cases cs with
  | nil => exact hrest
  | cons c cs =>
    obtain ⟨d, hd⟩ := hcs c List.mem_cons_self
    exact if_neg (ne_of_digit? hd mark hmark)

theorem allDigits_of_mapM {ds : List Nat} (h : cs.mapM (digit? 10) = some ds) :
    AllDigits cs ∧ ds.length = cs.length := by
  induction cs generalizing ds with
  | nil =>
    cases h
    exact ⟨by simp [AllDigits], rfl⟩
  | cons c cs ih =>
    rw [List.mapM_cons] at h
    simp only [Option.bind_eq_bind, Option.bind_eq_some_iff, Option.pure_def, Option.some.injEq] at h
    obtain ⟨d, hd, ds', hds, rfl⟩ := h
    obtain ⟨hcs, hlength⟩ := ih hds
    rw [List.length_cons, hlength, List.length_cons]
    exact ⟨List.forall_mem_cons.2 ⟨⟨d, hd⟩, hcs⟩, rfl⟩

/-- Numbers of a fixed length end before a numeral does. -/
theorem fixed_digits {count least greatest m : Nat} {end_ : List Char} (hcs : AllDigits cs)
    (hrest : NoDigit 10 rest) (h : fixed count least greatest (cs ++ rest) = some (m, end_)) :
    ∃ tail, end_ = tail ++ rest ∧ AllDigits tail := by
  simp only [fixed, Option.bind_eq_bind, Option.bind_eq_some_iff] at h
  obtain ⟨ds, hds, hread⟩ := h
  obtain ⟨htake, hlength⟩ := allDigits_of_mapM hds
  split_ifs at hread with hrange
  obtain ⟨-, rfl⟩ := Prod.mk.inj (Option.some.inj hread)
  rw [hrange.1, List.length_take, List.length_append] at hlength
  by_cases hcount : count ≤ cs.length
  · refine ⟨cs.drop count, List.drop_append_of_le_length hcount, fun c hc => hcs c ?_⟩
    exact List.mem_of_mem_drop hc
  · -- The first character after the numeral would be one of the digits.
    obtain ⟨k, hk⟩ : ∃ k, count = cs.length + (k + 1) := ⟨count - cs.length - 1, by omega⟩
    cases rest with
    | nil =>
      rw [List.length_nil] at hlength
      omega
    | cons c rest =>
      rw [hk, List.take_length_add_append, List.take_succ_cons] at htake
      obtain ⟨d, hd⟩ := htake c (List.mem_append_right _ List.mem_cons_self)
      rw [hrest c rfl] at hd
      cases hd

/-! ### Times -/

theorem date_eq_none (hcs : AllDigits cs) (hrest : Ends rest) : date (cs ++ rest) = none := by
  rw [date]
  cases hyear : fixed 4 0 9999 (cs ++ rest) with
  | none => rfl
  | some year =>
    obtain ⟨tail, htail, hdigits⟩ := fixed_digits hcs (noDigit_of_ends hrest) hyear
    have hdash := expect_digits '-' (by decide) hdigits (hrest.expect (by decide))
    simp only [Option.bind_eq_bind, Option.bind_some, htail, hdash, Option.bind_none]

theorem timeOfDay_eq_none (hcs : AllDigits cs) (hrest : Ends rest) :
    timeOfDay (cs ++ rest) = none := by
  rw [timeOfDay]
  cases hhour : fixed 2 0 23 (cs ++ rest) with
  | none => rfl
  | some hour =>
    obtain ⟨tail, htail, hdigits⟩ := fixed_digits hcs (noDigit_of_ends hrest) hhour
    have hcolon := expect_digits ':' (by decide) hdigits (hrest.expect (by decide))
    simp only [Option.bind_eq_bind, Option.bind_some, htail, hcolon, Option.bind_none]

theorem time_eq_none (hcs : AllDigits cs) (hrest : Ends rest) : time (cs ++ rest) = none := by
  rw [time, date_eq_none hcs hrest]
  simp only [timeOfDay_eq_none hcs hrest, Option.map_none]

/-! ### Integers -/

theorem moreDigits_append (h : cs.map (digit? 10) = ds.map some) (hrest : Ends rest) :
    moreDigits 10 (cs ++ rest) = some (ds, rest) := by
  induction cs generalizing ds with
  | nil =>
    obtain rfl : ds = [] := by simpa using h.symm
    have hnone := noDigit_of_ends hrest
    obtain ⟨c, cs, rfl, hc⟩ := hrest
    have hc : c ≠ '_' := by
      obtain rfl | rfl | rfl := hc
      all_goals decide
    rw [List.nil_append, moreDigits.eq_def]
    simp only [if_neg hc, hnone c rfl]
  | cons c cs ih =>
    cases ds with
    | nil => simp at h
    | cons d ds =>
      obtain ⟨hd, hds⟩ := List.cons.inj h
      have hc : c ≠ '_' := ne_of_digit? hd '_' (by decide)
      rw [List.cons_append, moreDigits.eq_def]
      simp only [if_neg hc, hd, ih hds, Option.map_some]

theorem digits_append {c : Char} {d : Nat} (hd : digit? 10 c = some d)
    (h : cs.map (digit? 10) = ds.map some) (hrest : Ends rest) :
    digits 10 (c :: cs ++ rest) = some (d :: ds, rest) := by
  rw [List.cons_append, digits, hd, moreDigits_append h hrest]
  rfl

/-- A numeral starts with a digit, and ends with it if that is zero. -/
theorem spells_cases (h : Spells 10 n cs ds) :
    ∃ c cs' d ds', cs = c :: cs' ∧ ds = d :: ds' ∧ digit? 10 c = some d ∧
      cs'.map (digit? 10) = ds'.map some ∧ (c = '0' → cs' = []) := by
  have hdigits := h.digits
  have hlength := h.length_eq
  cases ds with
  | nil => exact absurd rfl h.nonempty
  | cons d ds =>
    cases cs with
    | nil => simp at hdigits
    | cons c cs =>
      obtain ⟨hd, hds⟩ := List.cons.inj hdigits
      refine ⟨c, cs, d, ds, rfl, rfl, hd, hds, ?_⟩
      rintro rfl
      obtain rfl : 0 = d := Option.some.inj hd
      rw [h.leading rfl] at hlength
      exact List.eq_nil_of_length_eq_zero (by simpa using hlength)

theorem integerDigits_append (h : Spells 10 n cs ds) (hrest : Ends rest) :
    integerDigits (cs ++ rest) = some (ds, rest) := by
  obtain ⟨c, cs, d, ds, rfl, rfl, hd, hds, hzero⟩ := spells_cases h
  by_cases hc : c = '0'
  · obtain rfl := hzero hc
    obtain rfl : ds = [] := by simpa using hds.symm
    subst hc
    cases hd
    rfl
  · rw [List.cons_append, integerDigits, ← List.cons_append, digits_append hd hds hrest]
    exact fun _ h => hc (List.cons.inj h).1

theorem sign_append (h : Spells 10 n cs ds) (rest : List Char) :
    sign (cs ++ rest) = (false, cs ++ rest) := by
  obtain ⟨c, cs, d, ds, rfl, -, hd, -, -⟩ := spells_cases h
  rw [List.cons_append, sign]
  · exact fun _ heq => ne_of_digit? hd '-' (by decide) (List.cons.inj heq).1
  · exact fun _ heq => ne_of_digit? hd '+' (by decide) (List.cons.inj heq).1

theorem specialFloat_eq_none (h : Spells 10 n cs ds) (rest : List Char) :
    specialFloat (cs ++ rest) = none := by
  obtain ⟨c, cs, d, ds, rfl, -, hd, -, -⟩ := spells_cases h
  rw [List.cons_append, specialFloat]
  · exact fun _ heq => ne_of_digit? hd 'i' (by decide) (List.cons.inj heq).1
  · exact fun _ heq => ne_of_digit? hd 'n' (by decide) (List.cons.inj heq).1

theorem float_eq_none (h : Spells 10 n cs ds) (hrest : Ends rest) : float (cs ++ rest) = none := by
  rw [float, sign_append h]
  simp only [specialFloat_eq_none h, integerDigits_append h hrest]
  obtain ⟨c, cs, rfl, rfl | rfl | rfl⟩ := hrest
  all_goals rfl

theorem ofInt_natCast (hn : n < 2 ^ 63) : ofInt n = some (.integer n) := by
  rw [ofInt, if_pos (by omega)]

/-- No letter for another base stands after the first digit of a decimal number. -/
theorem not_other_base (h : Spells 10 n cs ds) (hrest : Ends rest) {mark : Char}
    (hmark : mark ≠ '\n' ∧ mark ≠ ',' ∧ mark ≠ ']') (rest' : List Char) :
    cs ++ rest ≠ '0' :: mark :: rest' := by
  obtain ⟨c, cs, d, ds, rfl, -, -, -, hzero⟩ := spells_cases h
  intro heq
  obtain ⟨rfl, htail⟩ := List.cons.inj heq
  obtain rfl := hzero rfl
  have hrest' : rest = mark :: rest' := htail
  have hexpect := hrest.expect hmark
  rw [hrest', expect, if_pos rfl] at hexpect
  cases hexpect

theorem integer_append (h : Spells 10 n cs ds) (hn : n < 2 ^ 63) (hrest : Ends rest) :
    integer (cs ++ rest) = some (.integer n, rest) := by
  rw [integer, sign_append h]
  · simp only [integerDigits_append h hrest, h.value, Option.bind_eq_bind, Option.bind_some,
      Bool.false_eq_true, if_false, ofInt_natCast hn, Option.pure_def]
  · exact not_other_base h hrest (by decide)
  · exact not_other_base h hrest (by decide)
  · exact not_other_base h hrest (by decide)

theorem number_decimal (hn : n < 2 ^ 63) (hrest : Ends rest) :
    number (decimal n ++ rest) = some (.integer n, rest) := by
  obtain ⟨ds, h⟩ := Text.exists_spells (by decide : 1 < 10) (by decide) n
  rw [number, decimal, time_eq_none (fun _ => h.digit_of_mem) hrest, float_eq_none h hrest,
    integer_append h hn hrest]
  rfl

end Scalar

end MediaSocket.Toml
