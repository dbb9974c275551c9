/-! Numerals in a text: the digits at its front, and the number they stand for. -/

namespace MediaSocket.Text

/-- Something read from the front of a text, and what follows it. -/
abbrev Reader (α : Type) := List Char → Option (α × List Char)

/-- The text after `c`, if it starts with `c`. -/
def expect (c : Char) : List Char → Option (List Char)
  | [] => none
  | d :: rest => if d = c then some rest else none

def decimal (n : Nat) : List Char := Nat.toDigits 10 n

/-- The value of a digit in a base up to 36, in either case. -/
def digit? (base : Nat) (c : Char) : Option Nat :=
  let n := c.toNat
  let value :=
    if 48 ≤ n ∧ n ≤ 57 then some (n - 48)
    else if 97 ≤ n ∧ n ≤ 122 then some (n - 87)
    else if 65 ≤ n ∧ n ≤ 90 then some (n - 55)
    else none
  value.filter (· < base)

/-- The values of the digits at the front of a text, and what follows them. -/
def takeDigits (base : Nat) : List Char → List Nat × List Char
  | [] => ([], [])
  | c :: cs =>
    match digit? base c with
    | some d => (d :: (takeDigits base cs).1, (takeDigits base cs).2)
    | none => ([], c :: cs)

def ofDigits (base : Nat) (ds : List Nat) : Nat :=
  ds.foldl (fun n d => n * base + d) 0

/-- How a numeral may look. -/
structure NumeralForm where
  base : Nat
  /-- The greatest number of digits. -/
  maxDigits : Option Nat
  /-- Whether a numeral of two or more digits may start with zero. -/
  leadingZero : Bool
  /-- What the number must stay below. -/
  bound : Nat

/-- All digits at the front of a text as one number. -/
def numeral (form : NumeralForm) : Reader Nat := fun cs =>
  let (ds, rest) := takeDigits form.base cs
  let n := ofDigits form.base ds
  if ds.isEmpty || form.maxDigits.any (· < ds.length) ||
      (!form.leadingZero && ds.head? == some 0 && 1 < ds.length) || form.bound ≤ n then none
  else some (n, rest)

/-- Read `r`, after a colon unless it comes first. -/
def separated {α : Type} (first : Bool) (r : Reader α) : Reader α := fun cs =>
  if first then r cs else (expect ':' cs).bind r

/-- What a reader makes of a whole text. -/
def whole {α : Type} (r : Reader α) (cs : List Char) : Option α :=
  match r cs with
  | some (a, []) => some a
  | _ => none

end MediaSocket.Text
