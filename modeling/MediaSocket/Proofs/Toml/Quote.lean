import MediaSocket.Toml.Quote
import Mathlib.Data.List.Basic

/-! Every string is read back from the notation in which it is written. -/

namespace MediaSocket.Toml.Quote

/-- After a backslash, `code` is an escape for `c`, and no line break that joins lines. -/
structure Escapes (c : Char) (code : List Char) : Prop where
  read : ∀ rest, escape (code ++ rest) = some (c, rest)
  stays : ∀ rest, joinLine (code ++ rest) = none

/-- What a reader of strings makes of a character before the rest. -/
def consTo (c : Char) (result : Option (List Char × List Char)) : Option (List Char × List Char) :=
  result.map fun (s, rest) => (c :: s, rest)

variable {c : Char} {code cs s rest : List Char}

/-! ### Escapes -/

theorem numbered_append {digits : List Char} {n : Nat} (h : digits.length = n)
    (rest : List Char) :
    numbered n (digits ++ rest) = (scalar? digits).map fun c => (c, rest) := by
  rw [numbered, List.take_left' h, List.drop_left' h, if_pos h]

theorem toNat_lt_of_isControl (h : isControl c = true) : c.toNat < 128 := by
  simp only [isControl, Bool.or_eq_true, Bool.and_eq_true, decide_eq_true_eq, beq_iff_eq] at h
  omega

theorem escapes_control (h : isControl c = true) :
    Escapes c ('u' :: (Text.Hex.padded 4 c.toNat).map Char.toUpper) := by
  have hsmall : ∀ n < 128, ((Text.Hex.padded 4 n).map Char.toUpper).length = 4 ∧
      scalar? ((Text.Hex.padded 4 n).map Char.toUpper) = some (Char.ofNat n) := by decide
  obtain ⟨hlength, hscalar⟩ := hsmall c.toNat (toNat_lt_of_isControl h)
  rw [Char.ofNat_toNat] at hscalar
  refine ⟨fun rest => ?_, fun _ => rfl⟩
  rw [List.cons_append, escape, numbered_append hlength, hscalar, Option.map_some]

theorem isPlain_of_not_isControl (hcontrol : isControl c = false) (hline : c ≠ '\n') :
    isPlain c = true := by
  simp only [isControl, Bool.or_eq_false_iff, Bool.and_eq_false_iff, decide_eq_false_iff_not,
    bne_eq_false_iff_eq, beq_eq_false_iff_ne] at hcontrol
  simp only [isPlain, Bool.or_eq_true, Bool.and_eq_true, decide_eq_true_eq, beq_iff_eq, bne_iff_ne]
  obtain ⟨(hlow | rfl) | rfl, hdelete⟩ := hcontrol
  · exact .inr ⟨by omega, hdelete⟩
  · exact .inl rfl
  · exact absurd rfl hline

theorem ne_return_of_isPlain (h : isPlain c = true) : c ≠ '\r' := by
  rintro rfl
  revert h
  decide

/-- A character stands for itself or as an escape. -/
theorem escaped_cases (c : Char) (hline : c ≠ '\n') :
    (escaped c = [c] ∧ isPlain c = true ∧ c ≠ '\\') ∨
      ∃ code, escaped c = '\\' :: code ∧ Escapes c code := by
  unfold escaped
  split_ifs with hbackspace htab hfeed hreturn hslash hcontrol
  · exact .inr ⟨['b'], rfl, fun _ => hbackspace ▸ rfl, fun _ => rfl⟩
  · exact .inr ⟨['t'], rfl, fun _ => htab ▸ rfl, fun _ => rfl⟩
  · exact .inr ⟨['f'], rfl, fun _ => hfeed ▸ rfl, fun _ => rfl⟩
  · exact .inr ⟨['r'], rfl, fun _ => hreturn ▸ rfl, fun _ => rfl⟩
  · exact .inr ⟨['\\'], rfl, fun _ => by rw [hslash]; rfl, fun _ => rfl⟩
  · exact .inr ⟨_, rfl, escapes_control hcontrol⟩
  · exact .inl ⟨rfl, isPlain_of_not_isControl (Bool.not_eq_true _ ▸ hcontrol) hline, hslash⟩

theorem escapes_quote : Escapes '"' ['"'] := ⟨fun _ => rfl, fun _ => rfl⟩

theorem escapes_newline : Escapes '\n' ['n'] := ⟨fun _ => rfl, fun _ => rfl⟩

/-! ### On one line -/

theorem readBasic_raw (hplain : isPlain c = true) (hquote : c ≠ '"') (hslash : c ≠ '\\')
    (cs : List Char) : readBasic (c :: cs) = consTo c (readBasic cs) := by
  rw [readBasic, if_pos hplain, consTo]
  · exact hquote
  · exact hslash

theorem readBasic_escape (h : Escapes c code) (cs : List Char) :
    readBasic ('\\' :: code ++ cs) = consTo c (readBasic cs) := by
  rw [List.cons_append, readBasic]
  split
  all_goals
    rename_i heq
    rw [h.read] at heq
    cases heq
  rfl

theorem readBasic_body (s rest : List Char) :
    readBasic (basicBody s ++ '"' :: rest) = some (s, rest) := by
  induction s with
  | nil => rw [basicBody, List.nil_append, readBasic]
  | cons c s ih =>
    rw [basicBody, List.append_assoc]
    split_ifs with hquote hline
    · rw [readBasic_escape escapes_quote, ih, hquote, consTo, Option.map_some]
    · rw [readBasic_escape escapes_newline, ih, hline, consTo, Option.map_some]
    · obtain ⟨hescaped, hplain, hslash⟩ | ⟨code, hescaped, hcode⟩ := escaped_cases c hline
      · rw [hescaped, List.singleton_append, readBasic_raw hplain hquote hslash, ih, consTo,
          Option.map_some]
      · rw [hescaped, readBasic_escape hcode, ih, consTo, Option.map_some]

theorem readLiteral_append (hs : ∀ c ∈ s, isPlain c = true ∧ c ≠ '\'') (rest : List Char) :
    readLiteral (s ++ '\'' :: rest) = some (s, rest) := by
  induction s with
  | nil => rw [List.nil_append, readLiteral]
  | cons c s ih =>
    obtain ⟨⟨hplain, hquote⟩, hs⟩ := List.forall_mem_cons.1 hs
    rw [List.cons_append, readLiteral, if_pos hplain, ih hs, Option.map_some]
    exact hquote

/-! ### Over several lines -/

/-- The next character is no quote of this kind. -/
def NoQuote (quote : Char) (rest : List Char) : Prop := ∀ c ∈ rest.head?, c ≠ quote

theorem longEnd_quotes {quote : Char} {n : Nat} (hn : n ≤ 2) (hrest : NoQuote quote rest) :
    longEnd quote (List.replicate n quote ++ rest) = (List.replicate n quote, rest) := by
  have hfirst : ∀ d rest', rest = d :: rest' → d ≠ quote := by
    rintro d rest' rfl
    exact hrest d rfl
  obtain rfl | rfl | rfl : n = 0 ∨ n = 1 ∨ n = 2 := by omega
  · rcases rest with _ | ⟨a, _ | ⟨b, rest⟩⟩
    · rfl
    · exact if_neg (hfirst a [] rfl)
    · exact if_pos (hfirst a (b :: rest) rfl)
  · rcases rest with _ | ⟨a, rest⟩
    · simp [longEnd]
    · simp [longEnd, hfirst a rest rfl]
  · simp [longEnd]

/-- One or two quotes before the three that end a long string are its last characters. -/
theorem quotes_before_end (quote : Char) (n : Nat) (rest : List Char) :
    List.replicate n quote ++ quote :: quote :: quote :: rest =
      quote :: quote :: quote :: (List.replicate n quote ++ rest) := by
  induction n with
  | zero => rfl
  | succ n ih => rw [List.replicate_succ, List.cons_append, ih, List.cons_append]

theorem readLongBasic_quotes {n : Nat} (hn : n ≤ 2) (hrest : NoQuote '"' rest) :
    readLongBasic (List.replicate n '"' ++ '"' :: '"' :: '"' :: rest) =
      some (List.replicate n '"', rest) := by
  rw [quotes_before_end, readLongBasic, longEnd_quotes hn hrest]

theorem readLongLiteral_quotes {n : Nat} (hn : n ≤ 2) (hrest : NoQuote '\'' rest) :
    readLongLiteral (List.replicate n '\'' ++ '\'' :: '\'' :: '\'' :: rest) =
      some (List.replicate n '\'', rest) := by
  rw [quotes_before_end, readLongLiteral, longEnd_quotes hn hrest]

/-- A character of a long string is read as itself, unless it is a quote with two more after it. -/
theorem readLongBasic_raw (hplain : isPlain c = true ∨ c = '\n') (hslash : c ≠ '\\')
    (hquotes : ¬List.replicate 3 '"' <+: c :: cs) :
    readLongBasic (c :: cs) = consTo c (readLongBasic cs) := by
  have hread : (isPlain c || c == '\n') = true := by simpa using hplain
  rw [readLongBasic, if_pos hread, consTo]
  · rintro rest rfl rfl
    exact hquotes ⟨rest, rfl⟩
  · rintro rest rfl
    simp [isPlain] at hplain
  · exact hslash

theorem readLongLiteral_raw (hplain : isPlain c = true ∨ c = '\n')
    (hquotes : ¬List.replicate 3 '\'' <+: c :: cs) :
    readLongLiteral (c :: cs) = consTo c (readLongLiteral cs) := by
  have hread : (isPlain c || c == '\n') = true := by simpa using hplain
  rw [readLongLiteral, if_pos hread, consTo]
  · rintro rest rfl rfl
    exact hquotes ⟨rest, rfl⟩
  · rintro rest rfl
    simp [isPlain] at hplain

theorem readLongBasic_escape (h : Escapes c code) (cs : List Char) :
    readLongBasic ('\\' :: code ++ cs) = consTo c (readLongBasic cs) := by
  rw [List.cons_append, readLongBasic]
  split
  · rename_i heq
    rw [h.stays] at heq
    cases heq
  split
  all_goals
    rename_i heq
    rw [h.read] at heq
    cases heq
  rfl

/-- What stands for a character other than a quote in a long string is read as that character, and
does not start with a quote. -/
theorem readLongBasic_other (hquote : c ≠ '"') :
    ∃ d ds, (if c = '\n' then ['\n'] else escaped c) = d :: ds ∧ d ≠ '"' ∧
      ∀ cs, readLongBasic (d :: ds ++ cs) = consTo c (readLongBasic cs) := by
  have hraw (hplain : isPlain c = true ∨ c = '\n') (hslash : c ≠ '\\') (cs : List Char) :
      readLongBasic ([c] ++ cs) = consTo c (readLongBasic cs) := by
    refine readLongBasic_raw hplain hslash fun hpre => ?_
    rw [List.replicate_succ, List.cons_prefix_cons] at hpre
    exact hquote hpre.1.symm
  by_cases hline : c = '\n'
  · rw [if_pos hline]
    subst hline
    exact ⟨'\n', [], rfl, hquote, hraw (.inr rfl) (by decide)⟩
  rw [if_neg hline]
  obtain ⟨hescaped, hplain, hslash⟩ | ⟨code, hescaped, hcode⟩ := escaped_cases c hline
  · exact ⟨c, [], hescaped, hquote, hraw (.inl hplain) hslash⟩
  · exact ⟨'\\', code, hescaped, by decide, readLongBasic_escape hcode⟩

/-- What follows some quotes does not make them three, unless the string ends with them. -/
theorem longBasicBody_quotes {run : Nat} (hrun : run ≤ 2) (s tail : List Char) :
    (∃ n, n + run ≤ 2 ∧ s = List.replicate n '"' ∧
      longBasicBody run s = List.replicate n '"') ∨
      ¬List.replicate (3 - run) '"' <+: longBasicBody run s ++ tail := by
  induction s generalizing run with
  | nil => exact .inl ⟨0, by omega, rfl, rfl⟩
  | cons c s ih =>
    obtain ⟨k, hk⟩ : ∃ k, 3 - run = k + 1 := ⟨2 - run, by omega⟩
    rw [longBasicBody, hk, List.replicate_succ]
    by_cases hquote : c = '"'
    · rw [if_pos hquote]
      by_cases hthird : run = 2
      · rw [if_pos hthird]
        refine .inr fun hpre => ?_
        rw [List.cons_append, List.cons_prefix_cons] at hpre
        exact absurd hpre.1 (by decide)
      rw [if_neg hthird, List.cons_append, List.cons_prefix_cons]
      obtain ⟨n, hn, hs, hbody⟩ | hmore := @ih (run + 1) (by omega)
      · exact .inl ⟨n + 1, by omega, by rw [hquote, hs, List.replicate_succ],
          by rw [hbody, List.replicate_succ]⟩
      · rw [show 3 - (run + 1) = k by omega] at hmore
        exact .inr fun hpre => hmore hpre.2
    · obtain ⟨d, ds, hhead, hd, -⟩ := readLongBasic_other hquote
      rw [if_neg hquote, hhead]
      refine .inr fun hpre => ?_
      rw [List.cons_append, List.cons_append, List.cons_prefix_cons] at hpre
      exact hd hpre.1.symm

theorem readLongBasic_body {run : Nat} (hrun : run ≤ 2) (s : List Char)
    (hrest : NoQuote '"' rest) :
    readLongBasic (longBasicBody run s ++ '"' :: '"' :: '"' :: rest) = some (s, rest) := by
  -- The reader stands after `run` quotes that it has taken as characters of the string.
  induction s generalizing run with
  | nil => exact readLongBasic_quotes (Nat.zero_le 2) hrest
  | cons c s ih =>
    by_cases hquote : c = '"'
    · obtain ⟨n, hn, hs, hbody⟩ | hmore :=
        longBasicBody_quotes hrun (c :: s) ('"' :: '"' :: '"' :: rest)
      · -- The last quotes of the string run into the three that end it.
        rw [hbody, hs]
        exact readLongBasic_quotes (by omega) hrest
      rw [longBasicBody, if_pos hquote] at hmore ⊢
      by_cases hthird : run = 2
      · have hread := readLongBasic_escape escapes_quote
          (longBasicBody 0 s ++ '"' :: '"' :: '"' :: rest)
        rw [if_pos hthird, hquote]
        rwa [ih (Nat.zero_le 2), consTo, Option.map_some] at hread
      · rw [if_neg hthird, List.cons_append] at hmore ⊢
        have hthree : ¬List.replicate 3 '"' <+:
            '"' :: (longBasicBody (run + 1) s ++ '"' :: '"' :: '"' :: rest) := by
          refine fun hpre => hmore (List.IsPrefix.trans ⟨List.replicate run '"', ?_⟩ hpre)
          rw [← List.replicate_add, Nat.sub_add_cancel (by omega)]
        rw [readLongBasic_raw (.inl (by decide)) (by decide) hthree, ih (by omega), hquote, consTo,
          Option.map_some]
    · obtain ⟨d, ds, hhead, -, hread⟩ := readLongBasic_other hquote
      rw [longBasicBody, if_neg hquote, hhead, List.append_assoc, hread, ih (Nat.zero_le 2), consTo,
        Option.map_some]

theorem hasTriple_quotes {quote : Char} (hs : hasTriple quote s = false) (tail : List Char) :
    (∃ n ≤ 2, s = List.replicate n quote) ∨ ¬List.replicate 3 quote <+: s ++ tail := by
  rcases s with _ | ⟨a, _ | ⟨b, _ | ⟨c, s⟩⟩⟩
  · exact .inl ⟨0, by decide, rfl⟩
  · by_cases ha : a = quote
    · exact .inl ⟨1, by decide, by rw [ha]; rfl⟩
    · exact .inr fun hpre => ha (List.cons_prefix_cons.1 hpre).1.symm
  · by_cases hab : a = quote ∧ b = quote
    · exact .inl ⟨2, by decide, by rw [hab.1, hab.2]; rfl⟩
    · refine .inr fun hpre => hab ?_
      obtain ⟨ha, hpre⟩ := List.cons_prefix_cons.1 hpre
      exact ⟨ha.symm, (List.cons_prefix_cons.1 hpre).1.symm⟩
  · refine .inr fun hpre => ?_
    obtain ⟨ha, hpre⟩ := List.cons_prefix_cons.1 hpre
    obtain ⟨hb, hpre⟩ := List.cons_prefix_cons.1 hpre
    obtain ⟨hc, -⟩ := List.cons_prefix_cons.1 hpre
    simp [hasTriple, ← ha, ← hb, ← hc] at hs

theorem hasTriple_tail {quote : Char} (h : hasTriple quote (c :: s) = false) :
    hasTriple quote s = false := by
  rcases s with _ | ⟨a, _ | ⟨b, s⟩⟩
  · rfl
  · rfl
  · rw [hasTriple, Bool.or_eq_false_iff] at h
    exact h.2

theorem readLongLiteral_append (hplain : ∀ c ∈ s, isPlain c = true ∨ c = '\n')
    (htriple : hasTriple '\'' s = false) (hrest : NoQuote '\'' rest) :
    readLongLiteral (s ++ '\'' :: '\'' :: '\'' :: rest) = some (s, rest) := by
  induction s with
  | nil => exact readLongLiteral_quotes (Nat.zero_le 2) hrest
  | cons c s ih =>
    obtain ⟨n, hn, hs⟩ | hthree := hasTriple_quotes htriple ('\'' :: '\'' :: '\'' :: rest)
    · rw [hs]
      exact readLongLiteral_quotes hn hrest
    obtain ⟨hc, hs⟩ := List.forall_mem_cons.1 hplain
    rw [List.cons_append] at hthree ⊢
    rw [readLongLiteral_raw hc hthree, ih hs (hasTriple_tail htriple), consTo, Option.map_some]

/-! ### All notations -/

/-- The line break after the opening quotes of a long string is none of its characters. -/
theorem newline_start (s : List Char) {cs : List Char}
    (hfirst : '\n' ∉ s → ∃ c cs', cs = c :: cs' ∧ c ≠ '\n' ∧ c ≠ '\r') :
    (newline ((if s.contains '\n' then ['\n'] else []) ++ cs)).getD
      ((if s.contains '\n' then ['\n'] else []) ++ cs) = cs := by
  by_cases hlines : '\n' ∈ s
  · rw [if_pos (List.contains_iff_mem.2 hlines)]
    rfl
  · obtain ⟨c, cs', rfl, hline, hreturn⟩ := hfirst hlines
    rw [if_neg (fun h => hlines (List.contains_iff_mem.1 h)), List.nil_append, newline]
    · rfl
    · exact fun _ h => hline (List.cons.inj h).1
    · exact fun _ h => hreturn (List.cons.inj h).1

/-- Which strings a notation is good for. -/
def Style.Fits (s : List Char) : Style → Prop
  | .basic | .longBasic => True
  | .literal => ∀ c ∈ s, isPlain c = true ∧ c ≠ '\''
  | .longLiteral => (∀ c ∈ s, isPlain c = true ∨ c = '\n') ∧ hasTriple '\'' s = false

theorem Style.of_fits (s : List Char) : (Style.of s).Fits s := by
  have hplain (h : s.any isControl = false) : ∀ c ∈ s, isPlain c = true ∨ c = '\n' := by
    intro c hc
    rw [List.any_eq_false] at h
    by_cases hline : c = '\n'
    · exact .inr hline
    · exact .inl (isPlain_of_not_isControl (Bool.eq_false_iff.2 (h c hc)) hline)
  dsimp only [Style.of]
  split_ifs with hbasic hliteral hlong hlongLiteral hlines
  · trivial
  · simp only [Bool.and_eq_true, Bool.not_eq_true', List.contains_eq_mem,
      decide_eq_false_iff_not] at hliteral
    obtain ⟨⟨hcontrol, hlines⟩, hquotes⟩ := hliteral
    refine fun c hc => ⟨(hplain hcontrol c hc).resolve_right fun hline => ?_, fun hquote => ?_⟩
    · exact hlines (hline ▸ hc)
    · exact hquotes (hquote ▸ hc)
  · trivial
  · simp only [Bool.and_eq_true, Bool.not_eq_true'] at hlongLiteral
    exact ⟨hplain hlongLiteral.1, hlongLiteral.2⟩
  · trivial
  · trivial

theorem basicBody_head (c : Char) (s : List Char) :
    ∃ d ds, basicBody (c :: s) = d :: ds ∧ d ≠ '"' := by
  rw [basicBody]
  split_ifs with hquote hline
  · exact ⟨'\\', _, rfl, by decide⟩
  · exact ⟨'\\', _, rfl, by decide⟩
  · obtain ⟨hescaped, -, -⟩ | ⟨code, hescaped, -⟩ := escaped_cases c hline
    · exact ⟨c, _, by rw [hescaped]; rfl, hquote⟩
    · exact ⟨'\\', _, by rw [hescaped]; rfl, by decide⟩

theorem longBasicBody_first (hline : '\n' ∉ s) (cs : List Char) :
    ∃ c cs', longBasicBody 0 s ++ '"' :: cs = c :: cs' ∧ c ≠ '\n' ∧ c ≠ '\r' := by
  cases s with
  | nil => exact ⟨'"', cs, rfl, by decide, by decide⟩
  | cons c s =>
    have hc : c ≠ '\n' := fun h => hline (h ▸ List.mem_cons_self)
    by_cases hquote : c = '"'
    · exact ⟨'"', _, by rw [longBasicBody, if_pos hquote]; rfl, by decide, by decide⟩
    · rw [longBasicBody, if_neg hquote, if_neg hc]
      obtain ⟨hescaped, hplain, -⟩ | ⟨code, hescaped, -⟩ := escaped_cases c hc
      · exact ⟨c, _, by rw [hescaped]; rfl, hc, ne_return_of_isPlain hplain⟩
      · exact ⟨'\\', _, by rw [hescaped]; rfl, by decide, by decide⟩

theorem longLiteral_first (hplain : ∀ c ∈ s, isPlain c = true ∨ c = '\n') (hline : '\n' ∉ s)
    (cs : List Char) : ∃ c cs', s ++ '\'' :: cs = c :: cs' ∧ c ≠ '\n' ∧ c ≠ '\r' := by
  cases s with
  | nil => exact ⟨'\'', cs, rfl, by decide, by decide⟩
  | cons c s =>
    have hc : c ≠ '\n' := fun h => hline (h ▸ List.mem_cons_self)
    have hplain := (hplain c List.mem_cons_self).resolve_right hc
    exact ⟨c, _, rfl, hc, ne_return_of_isPlain hplain⟩

theorem read_writeAs {n : Style} (hfits : n.Fits s) (hdouble : NoQuote '"' rest)
    (hsingle : NoQuote '\'' rest) : read (writeAs n s ++ rest) = some (s, rest) := by
  -- A short notation must not look like a long one: two quotes are followed by no third.
  cases n with
  | basic =>
    rw [writeAs, List.append_assoc, List.cons_append, List.singleton_append, read,
      readBasic_body]
    intro rest' hquotes
    cases s with
    | nil => exact hdouble '"' (by rw [(List.cons.inj hquotes).2]; rfl) rfl
    | cons c s =>
      obtain ⟨d, ds, hbody, hd⟩ := basicBody_head c s
      rw [hbody] at hquotes
      exact hd (List.cons.inj hquotes).1
  | literal =>
    rw [writeAs, List.append_assoc, List.cons_append, List.singleton_append, read,
      readLiteral_append hfits]
    intro rest' hquotes
    cases s with
    | nil => exact hsingle '\'' (by rw [(List.cons.inj hquotes).2]; rfl) rfl
    | cons c s => exact (hfits c List.mem_cons_self).2 (List.cons.inj hquotes).1
  | longBasic =>
    have hbody := readLongBasic_body (Nat.zero_le 2) s hdouble
    have hstart := newline_start s fun hline =>
      longBasicBody_first hline ('"' :: '"' :: rest)
    rw [writeAs, List.append_assoc, List.append_assoc, List.append_assoc, List.cons_append,
      List.cons_append, List.cons_append, List.nil_append, read]
    exact (congrArg readLongBasic hstart).trans hbody
  | longLiteral =>
    have hbody := readLongLiteral_append hfits.1 hfits.2 hsingle
    have hstart := newline_start s fun hline =>
      longLiteral_first hfits.1 hline ('\'' :: '\'' :: rest)
    rw [writeAs, List.append_assoc, List.append_assoc, List.append_assoc, List.cons_append,
      List.cons_append, List.cons_append, List.nil_append, read]
    exact (congrArg readLongLiteral hstart).trans hbody

theorem read_write (s : List Char) (hdouble : NoQuote '"' rest) (hsingle : NoQuote '\'' rest) :
    read (write s ++ rest) = some (s, rest) :=
  read_writeAs (Style.of_fits s) hdouble hsingle

end MediaSocket.Toml.Quote
