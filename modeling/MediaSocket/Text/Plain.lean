/-!
Text without what a terminal takes as commands: control characters other than blanks, and the
sequences that an escape character starts.
-/

namespace MediaSocket.Text.Plain

inductive State where
  | plain
  /-- After an escape character. -/
  | escape
  /-- After an escape character and some signs. -/
  | signs
  /-- In a sequence with parameters; a letter ends it. -/
  | parameters
  /-- In a title or the like; a bell ends it. -/
  | title
  /-- In a text for the terminal, up to the next escape character. -/
  | message
  deriving DecidableEq, Repr

/-- Blanks among the control characters; they end a sequence, and are kept. -/
def isBlankControl (c : Char) : Bool := c == '\t' || c == '\n' || c == '\x0c' || c == '\r'

/-- The state after a character inside a sequence. -/
def State.after (s : State) (c : Char) : State :=
  let n := c.toNat
  if n = 0x1B then .escape
  else if n = 0x18 ∨ n = 0x1A then .plain
  else
    match s with
    | .plain => .plain
    | .escape =>
      if 0x20 ≤ n ∧ n ≤ 0x2F then .signs
      else if c = '[' then .parameters
      else if c = ']' then .title
      else if c = 'P' ∨ c = 'X' ∨ c = '^' ∨ c = '_' then .message
      else if 0x30 ≤ n ∧ n ≤ 0x7E then .plain
      else .escape
    | .signs => if 0x30 ≤ n ∧ n ≤ 0x7E then .plain else .signs
    | .parameters => if 0x40 ≤ n ∧ n ≤ 0x7E then .plain else .parameters
    | .title => if n = 0x07 then .plain else .title
    | .message => .message

/-- Whether a character is shown, and does not belong to a sequence. -/
def State.shows (s : State) (c : Char) : Bool :=
  match s with
  | .plain => (0x20 ≤ c.toNat && c.toNat != 0x7F) || isBlankControl c
  | .escape | .signs | .parameters => isBlankControl c
  | .title | .message => false

/-- What is shown of a text. -/
def shownFrom (s : State) : List Char → List Char
  | [] => []
  | c :: rest => if s.shows c then c :: shownFrom .plain rest else shownFrom (s.after c) rest

/-- What is shown of a text. -/
def shown (text : List Char) : List Char := shownFrom .plain text

end MediaSocket.Text.Plain
