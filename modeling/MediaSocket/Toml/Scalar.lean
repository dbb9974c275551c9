import MediaSocket.Text.Numeral
import MediaSocket.Toml.Value

/-! TOML numbers, times and truth values. Underscores may stand between digits. -/

namespace MediaSocket.Toml.Scalar

open Text (Reader digit? ofDigits expect)

/-- More digits, each of them after an underscore or not. -/
def moreDigits (base : Nat) : Reader (List Nat)
  | [] => some ([], [])
  | c :: rest =>
    if c = '_' then
      match rest with
      | [] => none
      | d :: rest' =>
        match digit? base d with
        | none => none
        | some n => (moreDigits base rest').map fun (ds, end_) => (n :: ds, end_)
    else
      match digit? base c with
      | none => some ([], c :: rest)
      | some n => (moreDigits base rest).map fun (ds, end_) => (n :: ds, end_)

/-- At least one digit. -/
def digits (base : Nat) : Reader (List Nat)
  | [] => none
  | c :: rest => do
    let n ← digit? base c
    let (ds, rest) ← moreDigits base rest
    return (n :: ds, rest)

/-- A sign, if there is one: whether it is a minus. -/
def sign : List Char → Bool × List Char
  | '-' :: rest => (true, rest)
  | '+' :: rest => (false, rest)
  | cs => (false, cs)

/-- The digits of a decimal integer: zero, or no leading zero. -/
def integerDigits : Reader (List Nat)
  | '0' :: rest => some ([0], rest)
  | cs => digits 10 cs

/-- An integer, if it fits in 64 bits. -/
def ofInt (n : Int) : Option Value :=
  if -9223372036854775808 ≤ n ∧ n ≤ 9223372036854775807 then some (.integer n) else none

/-- An integer in another base, after its letter. -/
def integerIn (base : Nat) : Reader Value := fun cs => do
  let (ds, rest) ← digits base cs
  return (← ofInt (ofDigits base ds), rest)

def integer : Reader Value
  | '0' :: 'x' :: rest => integerIn 16 rest
  | '0' :: 'o' :: rest => integerIn 8 rest
  | '0' :: 'b' :: rest => integerIn 2 rest
  | cs => do
    let (minus, cs) := sign cs
    let (ds, rest) ← integerDigits cs
    let n : Int := ofDigits 10 ds
    return (← ofInt (if minus then -n else n), rest)

/-- The exponent at the front of a text, if there is one. -/
def exponent : Reader (Option Int) := fun cs =>
  match cs with
  | [] => some (none, [])
  | c :: rest =>
    if c = 'e' ∨ c = 'E' then do
      let (minus, rest) := sign rest
      let (ds, rest) ← digits 10 rest
      let n : Int := ofDigits 10 ds
      return (some (if minus then -n else n), rest)
    else some (none, c :: rest)

/-- Whether a decimal number is too large for 64 bits, that is, at least 2¹⁰²⁴ − 2⁹⁷⁰. -/
def overflows (ds : List Nat) (exponent : Int) : Bool :=
  let n := ofDigits 10 ds
  let magnitude : Int := (ds.dropWhile (· == 0)).length + exponent
  if n = 0 || magnitude < 300 then false
  else if 310 < magnitude then true
  else
    (Nat.pow 2 1024 - Nat.pow 2 970) * Nat.pow 10 (-exponent).toNat ≤
      n * Nat.pow 10 exponent.toNat

/-- `inf` or `nan`. -/
def specialFloat : Reader Value
  | 'i' :: 'n' :: 'f' :: rest => some (.float, rest)
  | 'n' :: 'a' :: 'n' :: rest => some (.float, rest)
  | _ => none

/-- A float: an integer with a fraction, an exponent or both. A positive one must not be too
large. -/
def float : Reader Value := fun cs => do
  let (minus, cs) := sign cs
  match specialFloat cs with
  | some result => return result
  | none =>
    let (whole, rest) ← integerDigits cs
    let (fraction, rest) ←
      match rest with
      | '.' :: rest => (digits 10 rest).map fun (ds, rest) => (some ds, rest)
      | rest => some (none, rest)
    let (e, rest) ← exponent rest
    let places := fraction.getD []
    if fraction.isNone && e.isNone then none
    else if !minus && overflows (whole ++ places) (e.getD 0 - places.length) then none
    else return (.float, rest)

/-- A number of exactly `count` digits between two bounds. -/
def fixed (count least greatest : Nat) : Reader Nat := fun cs => do
  let ds ← (cs.take count).mapM (digit? 10)
  let n := ofDigits 10 ds
  if ds.length = count ∧ least ≤ n ∧ n ≤ greatest then return (n, cs.drop count) else none

/-- The number of days of a month. -/
def daysIn (year month : Nat) : Nat :=
  if month = 2 then
    if year % 4 = 0 ∧ (year % 100 ≠ 0 ∨ year % 400 = 0) then 29 else 28
  else if month = 4 ∨ month = 6 ∨ month = 9 ∨ month = 11 then 30
  else 31

/-- The text after a date. -/
def date (cs : List Char) : Option (List Char) := do
  let (year, cs) ← fixed 4 0 9999 cs
  let (month, cs) ← fixed 2 1 12 (← expect '-' cs)
  let (_, cs) ← fixed 2 1 (daysIn year month) (← expect '-' cs)
  return cs

/-- The text after a time of day. -/
def timeOfDay (cs : List Char) : Option (List Char) := do
  let (_, cs) ← fixed 2 0 23 cs
  let (_, cs) ← fixed 2 0 59 (← expect ':' cs)
  let (_, cs) ← fixed 2 0 60 (← expect ':' cs)
  match cs with
  | '.' :: rest =>
    let (ds, rest) := Text.takeDigits 10 rest
    if ds.isEmpty then none else return rest
  | cs => return cs

/-- The text after a distance from universal time, if there is one. -/
def offset (cs : List Char) : Option (List Char) :=
  match cs with
  | [] => some []
  | c :: rest =>
    if c = 'Z' ∨ c = 'z' then some rest
    else if c = '+' ∨ c = '-' then do
      let (_, rest) ← fixed 2 0 23 rest
      let (_, rest) ← fixed 2 0 59 (← expect ':' rest)
      return rest
    else some (c :: rest)

/-- A date, a time of day, or both with a distance from universal time. -/
def time : Reader Value := fun cs =>
  match date cs with
  | none => (timeOfDay cs).map fun rest => (.time, rest)
  | some afterDate =>
    match afterDate with
    | [] => some (.time, [])
    | c :: rest =>
      if c = 'T' ∨ c = 't' ∨ c = ' ' then
        match timeOfDay rest with
        | none => some (.time, c :: rest)
        | some afterTime => (offset afterTime).map fun end_ => (.time, end_)
      else some (.time, c :: rest)

def number : Reader Value := fun cs => (time cs <|> float cs) <|> integer cs

def boolean : Reader Value
  | 't' :: 'r' :: 'u' :: 'e' :: rest => some (.boolean true, rest)
  | 'f' :: 'a' :: 'l' :: 's' :: 'e' :: rest => some (.boolean false, rest)
  | _ => none

end MediaSocket.Toml.Scalar
