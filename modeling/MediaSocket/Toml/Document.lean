import MediaSocket.Toml.Quote
import MediaSocket.Toml.Scalar

/-!
TOML documents: a line is blank, opens a table or puts a value under a key. The document is the
table that its lines build up, one after the other.
-/

namespace MediaSocket.Toml

open Text (Reader expect)

/-- Keys have fewer parts than this, and arrays and inline tables are less deep. -/
def nestingLimit : Nat := 80

/-- Whether a character may stand in a key without quotes. -/
def isBare (c : Char) : Bool := c.isAlphanum || c == '-' || c == '_'

def keyPart : Reader String
  | '"' :: rest => (Quote.readBasic rest).map fun (s, end_) => (String.ofList s, end_)
  | '\'' :: rest => (Quote.readLiteral rest).map fun (s, end_) => (String.ofList s, end_)
  | cs =>
    let bare := cs.takeWhile isBare
    if bare.isEmpty then none else some (String.ofList bare, cs.dropWhile isBare)

/-- The parts of a key, with points between them and blanks around each, at most `limit` of
them. -/
def keyParts : Nat → Reader (List String)
  | 0, _ => none
  | limit + 1, cs => do
    let (part, cs) ← keyPart (skipBlanks cs)
    match skipBlanks cs with
    | '.' :: rest =>
      let (more, rest) ← keyParts limit rest
      return (part :: more, rest)
    | rest => return ([part], rest)

/-- A key: the tables it passes through, and its last part. -/
def key : Reader (List String × String) := fun cs => do
  let (parts, rest) ← keyParts (nestingLimit - 1) cs
  let last ← parts.getLast?
  return ((parts.dropLast, last), rest)

/-- A key, `=` and a value. -/
def keyValue (value : Reader Value) : Reader ((List String × String) × Value) := fun cs => do
  let (k, cs) ← key cs
  let cs ← expect '=' cs
  let (v, rest) ← value (skipBlanks cs)
  return ((k, v), rest)

/-- The items of an array after its bracket or a comma; there are fewer than `fuel`. -/
def items (value : Reader Value) : Nat → Reader (List Value)
  | 0, _ => none
  | fuel + 1, cs =>
    match skipGap false cs with
    | ']' :: rest => some ([], rest)
    | cs => do
      let (v, cs) ← value cs
      match skipGap false cs with
      | ',' :: rest =>
        let (more, rest) ← items value fuel rest
        return (v :: more, rest)
      | ']' :: rest => return ([v], rest)
      | _ => none

/-- The rest of an inline table, `es` standing before it; fewer than `fuel` entries follow. -/
def inlineEntries (value : Reader Value) : Nat → Entries → Reader Entries
  | 0, _, _ => none
  | fuel + 1, es, cs => do
    let (((path, last), v), cs) ← keyValue value cs
    let es ← es.insert path last v
    match skipBlanks cs with
    | ',' :: rest => inlineEntries value fuel es rest
    | '}' :: rest => return (es, rest)
    | _ => none

/-- An inline table after its brace. -/
def inlineTable (value : Reader Value) : Reader Entries := fun cs =>
  match skipBlanks cs with
  | '}' :: rest => some ([], rest)
  | _ => inlineEntries value cs.length [] cs

/-- A value, `depth` being how deep arrays and inline tables may still go. -/
def value : Nat → Reader Value
  | depth, cs =>
    match cs with
    | [] => none
    | c :: rest =>
      if c = '[' then
        match depth with
        | 0 => none
        | depth + 1 =>
          (items (value depth) cs.length rest).map fun (vs, end_) => (.array vs, end_)
      else if c = '{' then
        match depth with
        | 0 => none
        | depth + 1 =>
          (inlineTable (value depth) rest).map fun (es, end_) => (.table .inline es, end_)
      else if c = '"' ∨ c = '\'' then
        (Quote.read cs).map fun (s, end_) => (.string (String.ofList s), end_)
      else if c = '+' ∨ c = '-' ∨ c.isDigit then Scalar.number cs
      else if c = 't' ∨ c = 'f' then Scalar.boolean cs
      else if c = 'i' ∨ c = 'n' then Scalar.specialFloat cs
      else none

inductive Line where
  | blank
  /-- Put a value under a key of the current table. -/
  | entry (path : List String) (key : String) (v : Value)
  /-- Open a table. -/
  | table (path : List String) (key : String)
  /-- Open one more table of an array of tables. -/
  | tables (path : List String) (key : String)

def line : Reader Line := fun cs =>
  match skipBlanks cs with
  | [] => some (.blank, [])
  | '[' :: '[' :: rest => do
    let ((path, last), rest) ← key rest
    let rest ← endOfLine (← expect ']' (← expect ']' rest))
    return (.tables path last, rest)
  | '[' :: rest => do
    let ((path, last), rest) ← key rest
    let rest ← endOfLine (← expect ']' rest)
    return (.table path last, rest)
  | c :: rest =>
    if c = '#' ∨ c = '\n' ∨ c = '\r' then (endOfLine (c :: rest)).map fun end_ => (.blank, end_)
    else do
      let (((path, last), v), rest) ← keyValue (value (nestingLimit - 1)) (c :: rest)
      let rest ← endOfLine rest
      return (.entry path last v, rest)

/-- A document that is being read: its table, and the path of the table that was opened last. -/
structure Draft where
  root : Entries
  current : List String

def Draft.add (d : Draft) : Line → Option Draft
  | .blank => some d
  | .entry path key v =>
    (d.root.change (Entries.insert path key v) d.current).map fun root => { d with root }
  | .table path key => (d.root.openTable path key).map fun root => ⟨root, path ++ [key]⟩
  | .tables path key => (d.root.appendTable path key).map fun root => ⟨root, path ++ [key]⟩

/-- The draft after all lines of a text, of which there are at most `fuel`. -/
def Draft.addLines : Nat → Draft → List Char → Option Draft
  | 0, d, cs => if cs.isEmpty then some d else none
  | fuel + 1, d, cs =>
    if cs.isEmpty then some d
    else do
      let (l, rest) ← line cs
      addLines fuel (← d.add l) rest

/-- The table that a document describes. A byte order mark may stand at its front. -/
def Entries.ofText? (text : String) : Option Entries :=
  let cs := text.toList
  let cs := if cs.head? = some '\uFEFF' then cs.drop 1 else cs
  (Draft.addLines cs.length ⟨[], []⟩ cs).map Draft.root

end MediaSocket.Toml
