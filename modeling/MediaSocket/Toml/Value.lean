import MediaSocket.Table

/-!
TOML values, and the rules by which keys and headers put values into tables. A table remembers how
it came to be, because that decides what may still be added to it.
-/

namespace MediaSocket.Toml

/-- How a table came to be. -/
inductive Origin where
  /-- By a header of its own. -/
  | header
  /-- By the header of a table within it. -/
  | implied
  /-- By a dotted key. -/
  | dotted
  /-- By braces. -/
  | inline
  deriving DecidableEq, Repr

/-- A TOML value. Floats and times are known to be well formed, their values are not kept. -/
inductive Value where
  | string (text : String)
  | integer (n : Int)
  | float
  | boolean (b : Bool)
  | time
  | array (items : List Value)
  | table (origin : Origin) (entries : List (String × Value))
  /-- An array of tables, each with a header. -/
  | tables (elements : List (List (String × Value)))

/-- The keys and values of a table. -/
abbrev Entries := List (String × Value)

namespace Entries

def changeLast (f : Entries → Option Entries) (elements : List Entries) : Option (List Entries) :=
  match elements.getLast? with
  | none => none
  | some last => (f last).map fun last' => elements.dropLast ++ [last']

/-- Put a value under a dotted key. A key may be used once; a dotted key may go on in tables that
dotted keys made, and pass through tables that have no header of their own. -/
def insert : List String → String → Value → Entries → Option Entries
  | [], key, v, es => if (Table.find key es).isSome then none else some (es ++ [(key, v)])
  | k :: path, key, v, es =>
    match Table.find k es with
    | none => (insert path key v []).map fun sub => Table.put k (.table .dotted sub) es
    | some (.table .dotted sub) =>
      (insert path key v sub).map fun sub' => Table.put k (.table .dotted sub') es
    | some (.table .implied sub) =>
      if path.isEmpty then none
      else (insert path key v sub).map fun sub' => Table.put k (.table .implied sub') es
    | some (.tables elements) =>
      if path.isEmpty then none
      else (changeLast (insert path key v) elements).map fun els => Table.put k (.tables els) es
    | some _ => none

/-- Change the table that a header names. Tables on the way that do not exist are implied; of an
array of tables it is the last one. -/
def change (f : Entries → Option Entries) : List String → Entries → Option Entries
  | [], es => f es
  | k :: path, es =>
    match Table.find k es with
    | none => (change f path []).map fun sub => Table.put k (.table .implied sub) es
    | some (.table .inline _) => none
    | some (.table origin sub) =>
      (change f path sub).map fun sub' => Table.put k (.table origin sub') es
    | some (.tables elements) =>
      (changeLast (change f path) elements).map fun els => Table.put k (.tables els) es
    | some _ => none

/-- Open the table of a header: a new one, or one that was only implied so far. -/
def openTable (path : List String) (key : String) (es : Entries) : Option Entries :=
  change
    (fun parent =>
      match Table.find key parent with
      | none => some (Table.put key (.table .header []) parent)
      | some (.table .implied sub) => some (Table.put key (.table .header sub) parent)
      | some _ => none)
    path es

/-- Open one more table of an array of tables. -/
def appendTable (path : List String) (key : String) (es : Entries) : Option Entries :=
  change
    (fun parent =>
      match Table.find key parent with
      | none => some (Table.put key (.tables [[]]) parent)
      | some (.tables elements) => some (Table.put key (.tables (elements ++ [[]])) parent)
      | some _ => none)
    path es

end Entries

end MediaSocket.Toml
