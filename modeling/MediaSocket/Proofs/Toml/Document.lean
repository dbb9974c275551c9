import MediaSocket.Proofs.Table
import MediaSocket.Proofs.Toml.Quote
import MediaSocket.Proofs.Toml.Scalar
import MediaSocket.Toml.Document

/-! A document with one line per key is read back as the table of these keys. -/

namespace MediaSocket.Toml

open Text (expect decimal)

/-- `text` is read as the value `v`, wherever a value may end; it starts like one. -/
structure Reads (depth : Nat) (text : List Char) (v : Value) : Prop where
  starts : ∃ c cs, text = c :: cs ∧ isBlank c = false ∧ c ≠ '\n' ∧ c ≠ '\r' ∧ c ≠ '#' ∧ c ≠ ']'
  read : ∀ rest, Ends rest → value depth (text ++ rest) = some (v, rest)

variable {depth : Nat} {text rest cs : List Char} {v : Value}

/-! ### Values -/

theorem Ends.noQuote {quote : Char} (h : Ends rest)
    (hquote : quote ≠ '\n' ∧ quote ≠ ',' ∧ quote ≠ ']') : Quote.NoQuote quote rest := by
  obtain ⟨c, cs, rfl, hc⟩ := h.ne hquote
  intro d hd
  cases hd
  exact hc

theorem write_head (s : List Char) : ∃ c cs, Quote.write s = c :: cs ∧ (c = '"' ∨ c = '\'') := by
  rw [Quote.write]
  cases Quote.Style.of s with
  | basic | longBasic => exact ⟨'"', _, rfl, .inl rfl⟩
  | literal | longLiteral => exact ⟨'\'', _, rfl, .inr rfl⟩

theorem reads_string (depth : Nat) (s : String) :
    Reads depth (Quote.write s.toList) (.string s) := by
  obtain ⟨c, cs, hwrite, hc⟩ := write_head s.toList
  refine ⟨⟨c, cs, hwrite, ?_⟩, fun rest hrest => ?_⟩
  · obtain rfl | rfl := hc
    all_goals decide
  · have hread := Quote.read_write s.toList (hrest.noQuote (by decide)) (hrest.noQuote (by decide))
    have hother : c ≠ '[' ∧ c ≠ '{' := by
      obtain rfl | rfl := hc
      all_goals decide
    rw [hwrite, List.cons_append] at hread ⊢
    rw [value.eq_def]
    simp only [if_neg hother.1, if_neg hother.2, if_pos hc, hread, Option.map_some,
      String.ofList_toList]

theorem reads_decimal (depth : Nat) {n : Nat} (hn : n < 2 ^ 63) :
    Reads depth (decimal n) (.integer n) := by
  obtain ⟨ds, hds⟩ := Text.exists_spells (by decide : 1 < 10) (by decide) n
  obtain ⟨c, cs, d, -, hdecimal, -, hd, -, -⟩ := Scalar.spells_cases hds
  have hne (mark : Char) (hmark : Text.digit? 10 mark = none) : c ≠ mark :=
    Text.ne_of_digit? hd mark hmark
  refine ⟨⟨c, cs, hdecimal, ?_, hne '\n' (by decide), hne '\r' (by decide), hne '#' (by decide),
    hne ']' (by decide)⟩, fun rest hrest => ?_⟩
  · rw [isBlank, Bool.or_eq_false_iff, beq_eq_false_iff_ne, beq_eq_false_iff_ne]
    exact ⟨hne ' ' (by decide), hne '\t' (by decide)⟩
  · have hread := Scalar.number_decimal hn hrest
    have hquote : ¬(c = '"' ∨ c = '\'') :=
      not_or.2 ⟨hne '"' (by decide), hne '\'' (by decide)⟩
    rw [decimal, hdecimal, List.cons_append] at hread ⊢
    rw [value.eq_def]
    simp only [if_neg (hne '[' (by decide)), if_neg (hne '{' (by decide)), if_neg hquote,
      Scalar.isDigit_of_digit? hd, or_true, if_true, hread]

theorem skipGap_cons {c : Char} (hc : isBlank c = false ∧ c ≠ '\n' ∧ c ≠ '\r' ∧ c ≠ '#')
    (cs : List Char) : skipGap false (c :: cs) = c :: cs := by
  rw [skipGap, if_neg Bool.false_ne_true, if_neg (Bool.eq_false_iff.1 hc.1), if_neg hc.2.2.2]
  · exact hc.2.1
  · exact fun _ hreturn => absurd hreturn hc.2.2.1

theorem items_blank (read : Text.Reader Value) (fuel : Nat) (cs : List Char) :
    items read fuel (' ' :: cs) = items read fuel cs := by
  cases fuel with
  | zero => rfl
  | succ fuel =>
    rw [items, items]
    rfl

theorem items_comma (ht : Reads depth text v) (fuel : Nat) (cs : List Char) :
    items (value depth) (fuel + 1) (text ++ ',' :: cs) =
      (items (value depth) fuel cs).map fun (vs, rest) => (v :: vs, rest) := by
  have hread := ht.read (',' :: cs) ⟨',', cs, rfl, .inr (.inl rfl)⟩
  obtain ⟨c, text', htext, hblank, hline, hreturn, hcomment, hbracket⟩ := ht.starts
  rw [htext, List.cons_append] at hread ⊢
  rw [items, skipGap_cons ⟨hblank, hline, hreturn, hcomment⟩]
  split
  · rename_i heq
    exact absurd (List.cons.inj heq).1 hbracket
  · rw [hread, Option.bind_eq_bind, Option.bind_some]
    simp only [skipGap_cons (c := ',') (by decide)]
    cases items (value depth) fuel cs with
    | none => rfl
    | some _ => rfl

theorem items_last (ht : Reads depth text v) (fuel : Nat) (rest : List Char) :
    items (value depth) (fuel + 1) (text ++ ']' :: rest) = some ([v], rest) := by
  have hread := ht.read (']' :: rest) ⟨']', rest, rfl, .inr (.inr rfl)⟩
  obtain ⟨c, text', htext, hblank, hline, hreturn, hcomment, hbracket⟩ := ht.starts
  rw [htext, List.cons_append] at hread ⊢
  rw [items, skipGap_cons ⟨hblank, hline, hreturn, hcomment⟩]
  split
  · rename_i heq
    exact absurd (List.cons.inj heq).1 hbracket
  · rw [hread]
    rfl

section Arrays

variable {α : Type} {text : α → List Char} {v : α → Value} {as : List α}

theorem items_append (h : ∀ a ∈ as, Reads depth (text a) (v a)) {fuel : Nat}
    (hfuel : as.length < fuel) (rest : List Char) :
    items (value depth) fuel ([',', ' '].intercalate (as.map text) ++ ']' :: rest) =
      some (as.map v, rest) := by
  induction as generalizing fuel with
  | nil =>
    cases fuel with
    | zero => exact absurd hfuel (Nat.not_lt_zero _)
    | succ fuel => rfl
  | cons a as ih =>
    obtain ⟨ha, has⟩ := List.forall_mem_cons.1 h
    cases fuel with
    | zero => exact absurd hfuel (Nat.not_lt_zero _)
    | succ fuel =>
      have ih := ih has (Nat.lt_of_succ_lt_succ hfuel)
      cases as with
      | nil => simpa using items_last ha fuel rest
      | cons b as =>
        rw [List.map_cons, List.map_cons, List.intercalate_cons_cons, List.append_assoc,
          List.append_assoc, List.cons_append, items_comma ha, List.singleton_append, items_blank,
          ← List.map_cons, ih, Option.map_some, List.map_cons (l := b :: as)]

theorem value_bracket (depth : Nat) (cs : List Char) :
    value (depth + 1) ('[' :: cs) =
      (items (value depth) (cs.length + 1) cs).map fun (vs, rest) => (.array vs, rest) := by
  rw [value.eq_def]
  rfl

theorem reads_array (h : ∀ a ∈ as, Reads depth (text a) (v a)) :
    Reads (depth + 1) ('[' :: [',', ' '].intercalate (as.map text) ++ [']']) (.array (as.map v)) := by
  refine ⟨⟨'[', _, rfl, by decide⟩, fun rest _ => ?_⟩
  have hnonempty : ∀ cs ∈ as.map text, cs ≠ [] := by
    intro cs hcs
    obtain ⟨a, ha, rfl⟩ := List.mem_map.1 hcs
    obtain ⟨c, cs, hstarts, -⟩ := (h a ha).starts
    exact hstarts ▸ List.cons_ne_nil c cs
  have hlength := Text.length_le_intercalate [',', ' '] hnonempty
  rw [List.length_map] at hlength
  rw [List.cons_append, List.cons_append, List.append_assoc, List.singleton_append, value_bracket,
    items_append h, Option.map_some]
  rw [List.length_append]
  omega

end Arrays

/-! ### Lines -/

/-- A line of a document: a key, and a value with its text. -/
structure Setting where
  key : String
  text : List Char
  value : Value

/-- The key needs no quotes. -/
def BareKey (key : String) : Prop := key.toList ≠ [] ∧ ∀ c ∈ key.toList, isBare c = true

namespace Setting

def line (s : Setting) : List Char := s.key.toList ++ ' ' :: '=' :: ' ' :: s.text ++ ['\n']

structure Valid (s : Setting) : Prop where
  bare : BareKey s.key
  reads : Reads (nestingLimit - 1) s.text s.value

end Setting

theorem bare_ne {c : Char} (hc : isBare c = true) (mark : Char) (hmark : isBare mark = false) :
    c ≠ mark := by
  rintro rfl
  rw [hmark] at hc
  cases hc

theorem BareKey.head {name : String} (h : BareKey name) :
    ∃ c cs, name.toList = c :: cs ∧ isBare c = true := by
  obtain ⟨hnonempty, hbare⟩ := h
  cases hname : name.toList with
  | nil => exact absurd hname hnonempty
  | cons c cs => exact ⟨c, cs, rfl, hbare c (hname ▸ List.mem_cons_self)⟩

theorem skipBlanks_cons {c : Char} (hc : isBlank c = false) (cs : List Char) :
    skipBlanks (c :: cs) = c :: cs := List.dropWhile_cons_of_neg (by simp [hc])

theorem keyPart_append {name : String} (hname : BareKey name) {c : Char}
    (hc : isBare c = false) (rest : List Char) :
    keyPart (name.toList ++ c :: rest) = some (name, c :: rest) := by
  have hbare := hname.2
  have htake : (name.toList ++ c :: rest).takeWhile isBare = name.toList := by
    rw [List.takeWhile_append_of_pos hbare, List.takeWhile_cons_of_neg (by simp [hc]),
      List.append_nil]
  have hdrop : (name.toList ++ c :: rest).dropWhile isBare = c :: rest := by
    rw [List.dropWhile_append_of_pos hbare, List.dropWhile_cons_of_neg (by simp [hc])]
  have hempty : name.toList.isEmpty = false := List.isEmpty_eq_false_iff.2 hname.1
  obtain ⟨d, ds, hd, hdbare⟩ := hname.head
  rw [keyPart, htake, hdrop]
  · rw [hempty, if_neg Bool.false_ne_true, String.ofList_toList]
  · intro rest' heq
    rw [hd] at heq
    exact bare_ne hdbare '"' (by decide) (List.cons.inj heq).1
  · intro rest' heq
    rw [hd] at heq
    exact bare_ne hdbare '\'' (by decide) (List.cons.inj heq).1

theorem skipBlanks_bare {name : String} (hname : BareKey name) (rest : List Char) :
    skipBlanks (name.toList ++ rest) = name.toList ++ rest := by
  obtain ⟨c, cs, hc, hbare⟩ := hname.head
  have hblank : isBlank c = false := by
    rw [isBlank, Bool.or_eq_false_iff, beq_eq_false_iff_ne, beq_eq_false_iff_ne]
    exact ⟨bare_ne hbare ' ' (by decide), bare_ne hbare '\t' (by decide)⟩
  rw [hc, List.cons_append, skipBlanks_cons hblank]

theorem key_append {name : String} (hname : BareKey name) (rest : List Char) :
    key (name.toList ++ ' ' :: '=' :: rest) = some (([], name), '=' :: rest) := by
  have hparts : keyParts (nestingLimit - 1) (name.toList ++ ' ' :: '=' :: rest) =
      some ([name], '=' :: rest) := by
    rw [show nestingLimit - 1 = 78 + 1 from rfl, keyParts, skipBlanks_bare hname,
      keyPart_append hname (by decide)]
    rfl
  rw [key, hparts]
  rfl

theorem Setting.line_append (s : Setting) (rest : List Char) :
    s.line ++ rest = s.key.toList ++ ' ' :: '=' :: ' ' :: (s.text ++ '\n' :: rest) := by
  simp [Setting.line]

theorem Setting.Valid.head {s : Setting} (hs : s.Valid) :
    ∃ c cs, s.line = c :: cs ∧ isBare c = true := by
  obtain ⟨c, cs, hkey, hbare⟩ := hs.bare.head
  rw [Setting.line, hkey]
  exact ⟨c, _, rfl, hbare⟩

theorem keyValue_append {s : Setting} (hs : s.Valid) (rest : List Char) :
    keyValue (value (nestingLimit - 1)) (s.line ++ rest) =
      some ((([], s.key), s.value), '\n' :: rest) := by
  obtain ⟨c, cs, htext, hblank, -⟩ := hs.reads.starts
  have hread := hs.reads.read ('\n' :: rest) ⟨'\n', rest, rfl, .inl rfl⟩
  have hskip : skipBlanks (' ' :: (s.text ++ '\n' :: rest)) = s.text ++ '\n' :: rest := by
    rw [htext, List.cons_append]
    exact skipBlanks_cons hblank _
  rw [keyValue, s.line_append, key_append hs.bare]
  simp only [Option.bind_eq_bind, Option.bind_some, expect, if_true, hskip, hread]
  rfl

theorem line_settings {s : Setting} (hs : s.Valid) (rest : List Char) :
    line (s.line ++ rest) = some (.entry [] s.key s.value, rest) := by
  have hentry := keyValue_append hs rest
  obtain ⟨c, cs, hline, hbare⟩ := hs.head
  have hskip : skipBlanks (s.line ++ rest) = s.line ++ rest := by
    rw [s.line_append, skipBlanks_bare hs.bare]
  have hother : ¬(c = '#' ∨ c = '\n' ∨ c = '\r') :=
    not_or.2 ⟨bare_ne hbare '#' (by decide),
      not_or.2 ⟨bare_ne hbare '\n' (by decide), bare_ne hbare '\r' (by decide)⟩⟩
  rw [hline, List.cons_append] at hentry
  rw [line, hskip, hline, List.cons_append]
  split
  · rename_i heq
    cases heq
  · rename_i heq
    exact absurd (List.cons.inj heq).1 (bare_ne hbare '[' (by decide))
  · rename_i heq
    exact absurd (List.cons.inj heq).1 (bare_ne hbare '[' (by decide))
  · rename_i heq
    cases heq
    rw [if_neg hother, hentry]
    rfl

theorem find_eq_none {key : String} {es : Entries} (h : key ∉ es.map Prod.fst) :
    Table.find key es = none := by
  cases hfind : Table.find key es with
  | none => rfl
  | some v => exact absurd (List.mem_map_of_mem (Table.mem_of_find hfind)) h

theorem add_entry {key : String} {root : Entries} (h : key ∉ root.map Prod.fst) (v : Value) :
    Draft.add ⟨root, []⟩ (.entry [] key v) = some ⟨root ++ [(key, v)], []⟩ := by
  rw [Draft.add, Entries.change, Entries.insert, find_eq_none h]
  rfl

theorem addLines_settings {settings : List Setting} (hs : ∀ s ∈ settings, s.Valid)
    {root : Entries} (hnodup : (root.map Prod.fst ++ settings.map Setting.key).Nodup) {fuel : Nat}
    (hfuel : (settings.flatMap Setting.line).length ≤ fuel) :
    Draft.addLines fuel ⟨root, []⟩ (settings.flatMap Setting.line) =
      some ⟨root ++ settings.map fun s => (s.key, s.value), []⟩ := by
  induction settings generalizing root fuel with
  | nil => cases fuel <;> simp [Draft.addLines]
  | cons s settings ih =>
    obtain ⟨hs, hsettings⟩ := List.forall_mem_cons.1 hs
    obtain ⟨c, cs, hline, -⟩ := hs.head
    rw [List.flatMap_cons, List.length_append, hline, List.length_cons] at hfuel
    obtain ⟨fuel, rfl⟩ : ∃ fuel', fuel = fuel' + 1 := ⟨fuel - 1, by omega⟩
    have hnew : s.key ∉ root.map Prod.fst := by
      intro hmem
      rw [List.map_cons] at hnodup
      exact List.disjoint_of_nodup_append hnodup hmem List.mem_cons_self
    have ih := @ih hsettings (root ++ [(s.key, s.value)]) (by simpa using hnodup) fuel (by omega)
    rw [List.flatMap_cons, Draft.addLines, if_neg]
    · rw [line_settings hs, Option.bind_eq_bind, Option.bind_some]
      simp only [add_entry hnew, Option.bind_eq_bind, Option.bind_some, ih, List.append_assoc,
        List.singleton_append, List.map_cons]
    · rw [hline]
      exact Bool.false_ne_true

theorem ofText?_settings {settings : List Setting} (hs : ∀ s ∈ settings, s.Valid)
    (hnodup : (settings.map Setting.key).Nodup) :
    Entries.ofText? (String.ofList (settings.flatMap Setting.line)) =
      some (settings.map fun s => (s.key, s.value)) := by
  have hfront : (settings.flatMap Setting.line).head? ≠ some '\uFEFF' := by
    cases settings with
    | nil => exact nofun
    | cons s settings =>
      obtain ⟨c, cs, hline, hbare⟩ := (hs s List.mem_cons_self).head
      rw [List.flatMap_cons, hline]
      exact fun h => bare_ne hbare '\uFEFF' (by decide) (Option.some.inj h)
  rw [Entries.ofText?, String.toList_ofList]
  simp only [if_neg hfront]
  rw [addLines_settings hs (by simpa using hnodup) (Nat.le_refl _)]
  rfl

end MediaSocket.Toml
