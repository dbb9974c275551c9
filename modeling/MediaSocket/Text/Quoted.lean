import MediaSocket.Text.Marked

/-! Quoted text: a character or a string between quotes, with escapes for the quote, the backslash
and whatever has no mark of its own. -/

namespace MediaSocket.Text.Quoted

/-- How a character stands between quotes of the given kind. -/
def escape (quote c : Char) : List Char :=
  if c = quote ∨ c = '\\' then ['\\', c]
  else if c = '\n' then ['\\', 'n']
  else if c = '\r' then ['\\', 'r']
  else if c = '\t' then ['\\', 't']
  else if c.toNat = 0 then ['\\', '0']
  else if isMarked c then [c]
  else '\\' :: 'u' :: '{' :: Nat.toDigits 16 c.toNat ++ ['}']

def string (text : List Char) : List Char :=
  '"' :: text.flatMap (escape '"') ++ ['"']

def char (c : Char) : List Char :=
  '\'' :: escape '\'' c ++ ['\'']

end MediaSocket.Text.Quoted
