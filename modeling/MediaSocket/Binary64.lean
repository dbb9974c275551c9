import MediaSocket.Text.Numeral

/-!
Numbers of the 64-bit binary floating-point format: the one nearest to a decimal, and the shortest
decimal that is nearest to no other. Magnitudes count the least positive number, 2⁻¹⁰⁷⁴, so that
all of this is arithmetic of whole numbers.
-/

namespace MediaSocket

open Text (takeDigits ofDigits decimal)

inductive Binary64 where
  | notANumber
  | infinite (negative : Bool)
  /-- A count of the least positive number; the count 0 has a sign too. -/
  | finite (negative : Bool) (units : Nat)
  deriving DecidableEq, Repr

namespace Binary64

/-- How many units one is. -/
def one : Nat := Nat.pow 2 1074

/-- How many units are too many for a finite number. -/
def bound : Nat := Nat.pow 2 2098

/-- The distance between numbers of the format near this magnitude: they have 53 binary digits. -/
def gap (units : Nat) : Nat := Nat.pow 2 (units.log2 + 1 - 53)

/-- The whole number nearest to a quotient; of two, the even one. -/
def nearest (n divisor : Nat) : Nat :=
  let whole := n / divisor
  let twice := 2 * (n % divisor)
  if twice < divisor then whole
  else if divisor < twice then whole + 1
  else whole + whole % 2

/-- The number nearest to a quotient of units; of two, the one with an even last digit. -/
def ofQuotient (negative : Bool) (n divisor : Nat) : Binary64 :=
  let step := gap (n / divisor)
  let units := nearest n (divisor * step) * step
  if units < bound then .finite negative units else .infinite negative

/-- The number nearest to a decimal: digits, and the power of ten of the last one. -/
def ofDecimal (negative : Bool) (digits : List Nat) (exponent : Int) : Binary64 :=
  let n := ofDigits 10 digits
  let magnitude : Int := (digits.dropWhile (· == 0)).length + exponent
  if n = 0 || magnitude < -330 then .finite negative 0
  else if 310 < magnitude then .infinite negative
  else ofQuotient negative (n * Nat.pow 10 exponent.toNat * one) (Nat.pow 10 (-exponent).toNat)

/-! ### Order -/

/-- The place of a number in the order of numbers; the one that is none comes last. -/
def place : Binary64 → Int
  | .finite false units => units
  | .finite true units => -units
  | .infinite false => bound
  | .infinite true => -bound
  | .notANumber => bound + 1

/-! ### Reading -/

/-- A sign, if there is one: whether it is a minus. -/
def sign : List Char → Bool × List Char
  | '-' :: rest => (true, rest)
  | '+' :: rest => (false, rest)
  | cs => (false, cs)

/-- The exponent that is all of a text; an empty text is the exponent 0. -/
def exponent? : List Char → Option Int
  | [] => some 0
  | c :: rest =>
    if c = 'e' ∨ c = 'E' then
      let (minus, rest) := sign rest
      match takeDigits 10 rest with
      | ([], _) => none
      | (ds, []) => some (if minus then -ofDigits 10 ds else ofDigits 10 ds)
      | _ => none
    else none

/-- The number that a decimal without a sign stands for: digits, with a point before, after or
between them, and an exponent. -/
def unsigned? (negative : Bool) (cs : List Char) : Option Binary64 :=
  let (whole, rest) := takeDigits 10 cs
  let (places, rest) :=
    match rest with
    | '.' :: rest => takeDigits 10 rest
    | rest => ([], rest)
  if whole.isEmpty && places.isEmpty then none
  else (exponent? rest).map fun e => ofDecimal negative (whole ++ places) (e - places.length)

/-- The number that a text stands for: a decimal, or a word in any case. -/
def ofText? (cs : List Char) : Option Binary64 :=
  let (negative, cs) := sign cs
  let word := String.ofList (cs.map Char.toLower)
  if word = "inf" ∨ word = "infinity" then some (.infinite negative)
  else if word = "nan" then some .notANumber
  else unsigned? negative cs

/-! ### Writing -/

/-- A decimal without a sign: its digits as a number, and the power of ten of the last one. -/
structure Decimal where
  digits : Nat
  exponent : Int
  deriving DecidableEq, Repr

/-- Of the two multiples of a power of ten around a magnitude the nearer one that the format rounds
to this magnitude, if there is one; of two equally near ones the larger. Half the distance to the
next number may be missed on either side, or a quarter below a power of two, where numbers lie
closer. -/
def onGrid? (units : Nat) (exponent : Int) : Option Decimal :=
  let step := gap units
  let below := if units = Nat.pow 2 units.log2 ∧ step ≠ 1 then step else 2 * step
  let closed := units / step % 2 = 0
  let scale := Nat.pow 10 (-exponent).toNat
  let grid := Nat.pow 10 exponent.toNat * (4 * one)
  let value := 4 * units * scale
  let low := (4 * units - below) * scale
  let high := (4 * units + 2 * step) * scale
  let inside (c : Nat) : Bool :=
    decide (low < c * grid ∧ c * grid < high ∨ closed ∧ (low = c * grid ∨ c * grid = high))
  let c := value / grid
  if inside c && (!inside (c + 1) || 2 * (value % grid) < grid) then some ⟨c, exponent⟩
  else if inside (c + 1) then some ⟨c + 1, exponent⟩
  else none

/-- The shortest decimal that the format rounds to a magnitude; of these the nearest. -/
def shortest (units : Nat) : Decimal :=
  ((List.range 640).findSome? fun i => onGrid? units (308 - Int.ofNat i)).getD ⟨0, 0⟩

/-- A decimal in positional notation, without needless zeros. -/
def Decimal.text (d : Decimal) : List Char :=
  let digits := decimal d.digits
  let places := (-d.exponent).toNat
  if places = 0 then digits ++ List.replicate d.exponent.toNat '0'
  else
    let padded := List.replicate (places + 1 - digits.length) '0' ++ digits
    padded.take (padded.length - places) ++ '.' :: padded.drop (padded.length - places)

def text : Binary64 → List Char
  | .notANumber => "NaN".toList
  | .infinite negative => (if negative then ['-'] else []) ++ "inf".toList
  | .finite negative units =>
    (if negative then ['-'] else []) ++ (if units = 0 then ['0'] else (shortest units).text)

end Binary64

end MediaSocket
