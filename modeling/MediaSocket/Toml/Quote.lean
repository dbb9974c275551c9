import MediaSocket.Text.Hex
import MediaSocket.Text.Numeral
import MediaSocket.Toml.Character

/-!
The four notations of TOML strings, `"…"` and `'…'` on one line and the same with three quotes at
each end over several lines: how a string is written in the first one that fits, and how each of
them is read.
-/

namespace MediaSocket.Toml.Quote

open Text (Reader)

/-! ### Writing -/

/-- Whether a character can only be written with an escape: a control other than the tab and the
line break. -/
def isControl (c : Char) : Bool :=
  (c.toNat < 0x20 && c != '\t' && c != '\n') || c.toNat == 0x7F

/-- Whether `c` stands three times in a row. -/
def hasTriple (c : Char) : List Char → Bool
  | x :: y :: z :: rest => (x == c && y == c && z == c) || hasTriple c (y :: z :: rest)
  | _ => false

inductive Style where
  /-- On one line, with escapes. -/
  | basic
  /-- On one line, as it is. -/
  | literal
  /-- Over several lines, with escapes. -/
  | longBasic
  /-- Over several lines, as it is. -/
  | longLiteral
  deriving DecidableEq, Repr

/-- The notation in which a string is written: the first that needs no escape but that of tabs and
line breaks, else the first with escapes. -/
def Style.of (s : List Char) : Style :=
  let plain := !s.any isControl
  let lines := s.contains '\n'
  if plain && !lines && !s.contains '\\' && !s.contains '"' then .basic
  else if plain && !lines && !s.contains '\'' then .literal
  else if plain && !s.contains '\\' && !hasTriple '"' s then .longBasic
  else if plain && !hasTriple '\'' s then .longLiteral
  else if lines then .longBasic
  else .basic

/-- How a character stands in a notation with escapes; quotes and line breaks are not in it. -/
def escaped (c : Char) : List Char :=
  if c = '\x08' then ['\\', 'b']
  else if c = '\t' then ['\\', 't']
  else if c = '\x0c' then ['\\', 'f']
  else if c = '\r' then ['\\', 'r']
  else if c = '\\' then ['\\', '\\']
  else if isControl c then '\\' :: 'u' :: (Text.Hex.padded 4 c.toNat).map Char.toUpper
  else [c]

/-- The characters between the quotes of `"…"`. -/
def basicBody : List Char → List Char
  | [] => []
  | c :: rest =>
    (if c = '"' then ['\\', '"'] else if c = '\n' then ['\\', 'n'] else escaped c) ++ basicBody rest

/-- The characters between the quotes of `"""…"""`, after `run` quotes: every third quote of a row
is escaped. -/
def longBasicBody (run : Nat) : List Char → List Char
  | [] => []
  | c :: rest =>
    if c = '"' then
      if run = 2 then '\\' :: '"' :: longBasicBody 0 rest else '"' :: longBasicBody (run + 1) rest
    else (if c = '\n' then ['\n'] else escaped c) ++ longBasicBody 0 rest

/-- A string in a notation; a line break follows the opening quotes of a long one with lines. -/
def writeAs (n : Style) (s : List Char) : List Char :=
  let start := if s.contains '\n' then ['\n'] else []
  match n with
  | .basic => '"' :: basicBody s ++ ['"']
  | .literal => '\'' :: s ++ ['\'']
  | .longBasic => ['"', '"', '"'] ++ start ++ longBasicBody 0 s ++ ['"', '"', '"']
  | .longLiteral => ['\'', '\'', '\''] ++ start ++ s ++ ['\'', '\'', '\'']

def write (s : List Char) : List Char := writeAs (.of s) s

/-! ### Reading -/

/-- The character that hexadecimal digits name; surrogates and numbers above U+10FFFF are none. -/
def scalar? (digits : List Char) : Option Char := do
  let values ← digits.mapM (Text.digit? 16)
  let n := Text.ofDigits 16 values
  if n < 0xD800 ∨ (0xDFFF < n ∧ n < 0x110000) then some (Char.ofNat n) else none

/-- The character named by the next `n` digits. -/
def numbered (n : Nat) : Reader Char := fun cs =>
  if (cs.take n).length = n then (scalar? (cs.take n)).map fun c => (c, cs.drop n) else none

/-- The character that an escape stands for, after its backslash. -/
def escape : Reader Char
  | 'b' :: rest => some ('\x08', rest)
  | 't' :: rest => some ('\t', rest)
  | 'n' :: rest => some ('\n', rest)
  | 'f' :: rest => some ('\x0c', rest)
  | 'r' :: rest => some ('\r', rest)
  | '"' :: rest => some ('"', rest)
  | '\\' :: rest => some ('\\', rest)
  | 'u' :: rest => numbered 4 rest
  | 'U' :: rest => numbered 8 rest
  | _ => none

theorem length_numbered {n : Nat} {cs rest : List Char} {c : Char}
    (h : numbered n cs = some (c, rest)) : rest.length ≤ cs.length := by
  simp only [numbered] at h
  split at h
  · obtain ⟨_, _, hx⟩ := Option.map_eq_some_iff.1 h
    simp only [Prod.mk.injEq] at hx
    simp [← hx.2]
  · simp at h

theorem length_escape {cs rest : List Char} {c : Char} (h : escape cs = some (c, rest)) :
    rest.length < cs.length := by
  unfold escape at h
  split at h
  case h_8 | h_9 => exact Nat.lt_succ_of_le (length_numbered h)
  case h_10 => simp at h
  all_goals
    simp only [Option.some.injEq, Prod.mk.injEq] at h
    simp [← h.2]

/-- What stands in `"…"`, after the opening quote. -/
def readBasic (cs : List Char) : Option (List Char × List Char) :=
  match cs with
  | [] => none
  | '"' :: rest => some ([], rest)
  | '\\' :: rest =>
    match h : escape rest with
    | none => none
    | some (c, rest') =>
      have := length_escape h
      (readBasic rest').map fun (s, end_) => (c :: s, end_)
  | c :: rest =>
    if isPlain c then (readBasic rest).map fun (s, end_) => (c :: s, end_) else none
termination_by cs.length

/-- What stands in `'…'`, after the opening quote. -/
def readLiteral : Reader (List Char)
  | [] => none
  | '\'' :: rest => some ([], rest)
  | c :: rest => if isPlain c then (readLiteral rest).map fun (s, end_) => (c :: s, end_) else none

/-- The end of a long string, after three quotes: one or two more quotes belong to the string. -/
def longEnd (quote : Char) : List Char → List Char × List Char
  | a :: b :: rest =>
    if a ≠ quote then ([], a :: b :: rest)
    else if b = quote then ([a, b], rest)
    else ([a], b :: rest)
  | [a] => if a = quote then ([a], []) else ([], [a])
  | [] => ([], [])

/-- The text after the blanks and line breaks at its front. -/
def skipLines : List Char → List Char
  | '\r' :: '\n' :: rest => skipLines rest
  | c :: rest => if isBlank c || c == '\n' then skipLines rest else c :: rest
  | [] => []

/-- The text after a line break that a backslash takes out of a long string, together with all
blanks and line breaks that follow. -/
def joinLine (cs : List Char) : Option (List Char) :=
  (newline (skipBlanks cs)).map skipLines

theorem length_skipLines (cs : List Char) : (skipLines cs).length ≤ cs.length := by
  fun_induction skipLines cs <;> grind

theorem length_newline {cs rest : List Char} (h : newline cs = some rest) :
    rest.length < cs.length := by
  unfold newline at h
  split at h
  case h_3 => simp at h
  all_goals
    simp only [Option.some.injEq] at h
    subst h
    exact Nat.lt_of_lt_of_le (Nat.lt_succ_self _) (by simp)

theorem length_joinLine {cs rest : List Char} (h : joinLine cs = some rest) :
    rest.length < cs.length := by
  obtain ⟨r, hr, rfl⟩ := Option.map_eq_some_iff.1 h
  have h1 := length_newline hr
  have h2 : (skipBlanks cs).length ≤ cs.length := (List.dropWhile_sublist isBlank).length_le
  have h3 := length_skipLines r
  omega

/-- What stands in `"""…"""`, after the opening quotes and the line break that may follow them. -/
def readLongBasic (cs : List Char) : Option (List Char × List Char) :=
  match cs with
  | [] => none
  | '"' :: '"' :: '"' :: rest => some (longEnd '"' rest)
  | '\r' :: '\n' :: rest => (readLongBasic rest).map fun (s, end_) => ('\n' :: s, end_)
  | '\\' :: rest =>
    match h : joinLine rest with
    | some rest' =>
      have := length_joinLine h
      readLongBasic rest'
    | none =>
      match h : escape rest with
      | none => none
      | some (c, rest') =>
        have := length_escape h
        (readLongBasic rest').map fun (s, end_) => (c :: s, end_)
  | c :: rest =>
    if isPlain c || c == '\n' then (readLongBasic rest).map fun (s, end_) => (c :: s, end_)
    else none
termination_by cs.length

/-- What stands between three single quotes, after the opening ones and the line break that may
follow them. -/
def readLongLiteral : Reader (List Char)
  | [] => none
  | '\'' :: '\'' :: '\'' :: rest => some (longEnd '\'' rest)
  | '\r' :: '\n' :: rest => (readLongLiteral rest).map fun (s, end_) => ('\n' :: s, end_)
  | c :: rest =>
    if isPlain c || c == '\n' then (readLongLiteral rest).map fun (s, end_) => (c :: s, end_)
    else none

def read : Reader (List Char)
  | '"' :: '"' :: '"' :: rest => readLongBasic ((newline rest).getD rest)
  | '"' :: rest => readBasic rest
  | '\'' :: '\'' :: '\'' :: rest => readLongLiteral ((newline rest).getD rest)
  | '\'' :: rest => readLiteral rest
  | _ => none

end MediaSocket.Toml.Quote
