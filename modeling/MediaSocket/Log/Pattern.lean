import MediaSocket.Text.Alphanumeric
import MediaSocket.Text.Numeral

/-!
Patterns for the values of fields: which texts are regular expressions. Letters after `(?` set
modes for the rest of a group. Classes of characters by name or escape are known for bytes only,
and so are word boundaries and the neglect of case; a byte alone must be ASCII. A counted
repetition would need a closing brace, which no value of a field has, so an opening brace is
refused.
-/

namespace MediaSocket.Log.Pattern

open Text (Reader isBlank isAlphabetic isAlphanumeric)

/-- How the characters of a pattern are taken. -/
structure Modes where
  ignoreCase : Bool := false
  /-- Whether a pattern speaks of characters, and not of bytes. -/
  unicode : Bool := true
  /-- Whether blanks and comments may stand between the parts of a pattern. -/
  spaced : Bool := false
  deriving DecidableEq, Repr

namespace Modes

/-- The modes with the one that a letter names. Some modes matter only for what is matched. -/
def set? (m : Modes) (letter : Char) (value : Bool) : Option Modes :=
  match letter with
  | 'i' => some { m with ignoreCase := value }
  | 'u' => some { m with unicode := value }
  | 'x' => some { m with spaced := value }
  | 'm' | 's' | 'U' | 'R' => some m
  | _ => none

/-- Whether case is to be neglected where it cannot be. -/
def foldsUnicode (m : Modes) : Bool := m.unicode && m.ignoreCase

end Modes

/-- The text after a comment. -/
def afterComment (cs : List Char) : List Char := (cs.dropWhile (· != '\n')).drop 1

/-- The text without blanks and comments in front, at most `count` of them. -/
def skipSpace : Nat → List Char → List Char
  | 0, cs => cs
  | _, [] => []
  | count + 1, c :: rest =>
    if isBlank c then skipSpace count rest
    else if c = '#' then skipSpace count (afterComment rest)
    else c :: rest

/-- The text from the next character that matters. -/
def Modes.skip (m : Modes) (cs : List Char) : List Char :=
  if m.spaced then skipSpace cs.length cs else cs

/-- The text from the next character that matters, if there is one. -/
def Modes.skip? (m : Modes) (cs : List Char) : Option (List Char) :=
  match m.skip cs with
  | [] => none
  | cs => some cs

/-! ### Single characters -/

/-- What one character or escape of a pattern stands for. -/
inductive Atom where
  /-- A character; `byte` if it is written as two hexadecimal digits. -/
  | literal (c : Char) (byte : Bool)
  /-- The digits, blanks or letters, or all other characters. -/
  | charSet (negated : Bool)
  /-- An end of a word, or a place that is none. -/
  | boundary
  /-- An end of the text. -/
  | anchor
  deriving DecidableEq, Repr

/-- Some hexadecimal digits, and the number that they and those before them give. -/
def hexDigits (m : Modes) : Nat → Nat → Reader Nat
  | 0, n, cs => some (n, cs)
  | count + 1, n, cs => do
    match ← m.skip? cs with
    | [] => none
    | c :: rest => hexDigits m count (n * 16 + (← Text.digit? 16 c)) rest

/-- The character with the number that some hexadecimal digits give. -/
def hexLiteral (m : Modes) (count : Nat) : Reader Atom := fun cs => do
  let (n, rest) ← hexDigits m count 0 cs
  if n.isValidChar then return (.literal (Char.ofNat n) (count == 2), rest) else none

def isEscapable (c : Char) : Bool :=
  c.toNat < 128 && !c.isAlphanum && c != '<' && c != '>'

/-- What follows a backslash. -/
def escape (m : Modes) : Reader Atom
  | [] => none
  | c :: rest =>
    match c with
    | 'x' => hexLiteral m 2 rest
    | 'u' => hexLiteral m 4 rest
    | 'U' => hexLiteral m 8 rest
    | 'd' | 's' | 'w' => some (.charSet false, rest)
    | 'D' | 'S' | 'W' => some (.charSet true, rest)
    | 'a' | 'f' | 't' | 'n' | 'r' | 'v' => some (.literal c false, rest)
    | 'A' | 'z' => some (.anchor, rest)
    | 'b' => if rest.head? = some '{' then none else some (.boundary, rest)
    | 'B' | '<' | '>' => some (.boundary, rest)
    | _ => if isEscapable c then some (.literal c false, rest) else none

def Atom.fits (m : Modes) : Atom → Bool
  | .literal c byte => if m.unicode then !m.ignoreCase else !byte || c.toNat < 128
  | .charSet negated => !m.unicode && !negated
  | .boundary => !m.unicode
  | .anchor => true

def Atom.fitsInBrackets (m : Modes) : Atom → Bool
  | .literal c _ => if m.unicode then !m.ignoreCase else c.toNat < 128
  | .charSet negated => !m.unicode && !negated
  | .boundary | .anchor => false

/-! ### Nesting -/

/-- How deep a pattern may be nested. -/
def nestLimit : Nat := 250

/-- How deep a list of parts is nested: a list of two or more parts is a level of its own. -/
def nesting (parts : List Nat) : Nat :=
  match parts with
  | [] => 0
  | [part] => part
  | parts => parts.foldl max 0 + 1

/-! ### Brackets -/

def classNames : List String :=
  ["alnum", "alpha", "ascii", "blank", "cntrl", "digit", "graph", "lower", "print", "punct",
   "space", "upper", "word", "xdigit"]

/-- A named class such as `[:alpha:]` after its bracket: whether it is negated. -/
def namedClass : Reader Bool := fun cs => do
  let cs ← Text.expect ':' cs
  let (negated, cs) :=
    match cs with
    | '^' :: rest => (true, rest)
    | cs => (false, cs)
  if classNames.contains (String.ofList (cs.takeWhile (· != ':'))) then
    match cs.dropWhile (· != ':') with
    | ':' :: ']' :: rest => return (negated, rest)
    | _ => none
  else none

/-- What stands in brackets by itself or at an end of a range. -/
def bracketAtom (m : Modes) : Reader Atom
  | [] => none
  | '\\' :: rest => escape m rest
  | c :: rest => some (.literal c false, rest)

/-- The character that decides whether a minus makes a range. -/
def afterMinus (m : Modes) (cs : List Char) : Option Char :=
  if m.spaced then
    match cs.dropWhile isBlank with
    | '#' :: rest => (rest.dropWhile isBlank).head?.or cs.head?
    | rest => rest.head?.or cs.head?
  else cs.head?

/-- The text after an atom or a range in brackets. -/
def range (m : Modes) (cs : List Char) : Option (List Char) := do
  let (first, cs) ← bracketAtom m cs
  let cs ← m.skip? cs
  let isRange :=
    match cs with
    | '-' :: rest => afterMinus m rest != some ']' && afterMinus m rest != some '-'
    | _ => false
  if isRange then
    let (last, rest) ← bracketAtom m (← m.skip? (cs.drop 1))
    match first, last with
    | .literal a _, .literal b _ =>
      if a ≤ b && first.fitsInBrackets m && last.fitsInBrackets m then return rest else none
    | _, _ => none
  else if first.fitsInBrackets m then return cs
  else none

/-- What brackets hold: how deep their parts are nested, since the last operator and before it. -/
structure Held where
  parts : List Nat := []
  operand : Option Nat := none

/-- How deep the whole is nested. -/
def Held.nesting (h : Held) : Nat :=
  match h.operand with
  | none => Pattern.nesting h.parts
  | some operand => max operand (Pattern.nesting h.parts) + 1

/-- What brackets hold, up to the closing one: how deep they are nested. -/
def held (inner : Reader Nat) (m : Modes) : Nat → Held → Reader Nat
  | 0, _, _ => none
  | fuel + 1, h, cs => do
    let next (h : Held) := held inner m fuel h
    let operator (rest : List Char) := next ⟨[], some h.nesting⟩ rest
    let cs := m.skip cs
    match cs with
    | [] => none
    | ']' :: rest => return (h.nesting + 1, rest)
    | '&' :: '&' :: rest => operator rest
    | '-' :: '-' :: rest => operator rest
    | '~' :: '~' :: rest => operator rest
    | '[' :: rest =>
      match namedClass rest with
      | some (negated, rest) =>
        if m.foldsUnicode || (!m.unicode && negated) then none
        else next { h with parts := 0 :: h.parts } rest
      | none =>
        let (part, rest) ← inner rest
        next { h with parts := part :: h.parts } rest
    | cs => next { h with parts := 0 :: h.parts } (← range m cs)

/-- The minus signs in front of what brackets hold, as parts, and what follows them. -/
def leadingMinus (m : Modes) : Nat → List Char → Option (List Nat × List Char)
  | 0, _ => none
  | fuel + 1, cs => do
    match ← m.skip? cs with
    | '-' :: rest => (leadingMinus m fuel rest).map fun (parts, rest) => (0 :: parts, rest)
    | cs => return ([], cs)

/-- Brackets after the opening one: how deep they are nested. A closing bracket in front is a
character like others. -/
def brackets (m : Modes) : Nat → Reader Nat
  | 0, _ => none
  | room + 1, cs => do
    let cs ← m.skip? cs
    let (negated, cs) :=
      match cs with
      | '^' :: rest => (true, rest)
      | cs => (false, cs)
    let (parts, cs) ← leadingMinus m (cs.length + 1) cs
    let (parts, cs) ←
      match parts, cs with
      | [], ']' :: rest => (m.skip? rest).map fun rest => ([0], rest)
      | parts, cs => some (parts, cs)
    if (negated && !m.unicode) || (m.foldsUnicode && !parts.isEmpty) then none
    else held (brackets m room) m (cs.length + 1) { parts } cs

/-! ### Groups -/

/-- The modes that letters set, up to a colon or a closing parenthesis, and which of the two it is.
A minus turns the modes after it off. -/
def setModes (m : Modes) (seen : List Char) (value : Bool) : Reader (Modes × Char)
  | [] => none
  | c :: rest =>
    if c = ':' ∨ c = ')' then
      if seen.head? = some '-' then none else some ((m, c), rest)
    else if seen.contains c then none
    else if c = '-' then setModes m (c :: seen) false rest
    else (m.set? c value).bind fun m => setModes m (c :: seen) value rest

def isName : List Char → Bool
  | [] => false
  | c :: rest =>
    (c == '_' || isAlphabetic c) &&
      rest.all fun c => c == '_' || c == '.' || c == '[' || c == ']' || isAlphanumeric c

/-- The name of a group, up to its closing angle bracket, with the names before it. -/
def groupName (names : List (List Char)) : Reader (List (List Char)) := fun cs =>
  let name := cs.takeWhile (· != '>')
  match cs.dropWhile (· != '>') with
  | '>' :: rest => if isName name && !names.contains name then some (name :: names, rest) else none
  | _ => none

/-- What follows an opening parenthesis. -/
inductive GroupStart where
  /-- Modes for the rest of the group around. -/
  | modes (m : Modes)
  /-- A group, its modes, and the names up to its own. -/
  | group (m : Modes) (names : List (List Char))

/-- The start of a group, or modes in parentheses. A group cannot look around. -/
def groupStart (m : Modes) (names : List (List Char)) (cs : List Char) :
    Option (GroupStart × List Char) :=
  match m.skip cs with
  | '?' :: 'P' :: '<' :: rest | '?' :: '<' :: rest =>
    (groupName names rest).map fun (names, rest) => (.group m names, rest)
  | '?' :: rest => do
    let ((inner, mark), after) ← setModes m [] true rest
    if mark = ':' then return (.group inner names, after)
    else if rest.head? = some ')' then none
    else return (.modes inner, after)
  | cs => some (.group m names, cs)

structure Branches where
  nesting : Nat
  names : List (List Char)

structure Reading where
  modes : Modes
  names : List (List Char)
  /-- How deep the branches before are nested. -/
  branches : List Nat := []
  /-- How deep the parts of this branch are nested, the last one first; `none` for modes, which
  cannot be repeated. -/
  parts : List (Option Nat) := []

namespace Reading

def part (r : Reading) (nesting : Nat) : Reading := { r with parts := some nesting :: r.parts }

/-- How deep this branch is nested. -/
def branch (r : Reading) : Nat := Pattern.nesting (r.parts.map (·.getD 0))

def repeated? (r : Reading) : Option Reading :=
  match r.parts with
  | some part :: parts => some { r with parts := some (part + 1) :: parts }
  | _ => none

def atom? (r : Reading) (a : Atom) : Option Reading :=
  if a.fits r.modes then some (r.part 0) else none

def done (r : Reading) : Branches := ⟨Pattern.nesting (r.branch :: r.branches), r.names⟩

end Reading

/-- Branches up to the end of the text or of the group; `group` reads those of a group. -/
def branches (group : Modes → List (List Char) → Reader Branches) :
    Nat → Reading → Reader Branches
  | 0, _, _ => none
  | fuel + 1, r, cs => do
    let next (r : Reading) := branches group fuel r
    match r.modes.skip cs with
    | [] => return (r.done, [])
    | c :: rest =>
      match c with
      | ')' => return (r.done, c :: rest)
      | '|' => next { r with branches := r.branch :: r.branches, parts := [] } rest
      | '(' =>
        match ← groupStart r.modes r.names rest with
        | (.modes modes, rest) => next { r with modes, parts := none :: r.parts } rest
        | (.group modes names, rest) =>
          let (inner, rest) ← group modes names rest
          next { r.part (inner.nesting + 1) with names := inner.names } (← Text.expect ')' rest)
      | '[' =>
        let (nesting, rest) ← brackets r.modes nestLimit rest
        next (r.part nesting) rest
      | '?' | '*' | '+' =>
        next (← r.repeated?) (if rest.head? = some '?' then rest.drop 1 else rest)
      | '{' => none
      | '\\' =>
        let (a, rest) ← escape r.modes rest
        next (← r.atom? a) rest
      | '.' => if r.modes.unicode then next (r.part 0) rest else none
      | '^' | '$' => next (r.part 0) rest
      | c => next (← r.atom? (.literal c false)) rest

/-- The branches of a group that may hold `room` more groups inside each other. -/
def expression : Nat → Modes → List (List Char) → Reader Branches
  | 0, _, _, _ => none
  | room + 1, modes, names, cs =>
    branches (expression room) (cs.length + 1) { modes, names } cs

def isPattern (text : List Char) : Bool :=
  match expression (nestLimit + 1) {} [] text with
  | some (b, []) => b.nesting ≤ nestLimit
  | _ => false

end MediaSocket.Log.Pattern
