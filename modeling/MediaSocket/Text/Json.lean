import MediaSocket.Text.Hex

/-! JSON strings. -/

namespace MediaSocket.Text.Json

def escape (c : Char) : List Char :=
  if c = '"' ∨ c = '\\' then ['\\', c]
  else if c = '\n' then ['\\', 'n']
  else if c = '\r' then ['\\', 'r']
  else if c = '\t' then ['\\', 't']
  else if c = '\x08' then ['\\', 'b']
  else if c = '\x0c' then ['\\', 'f']
  else if c.toNat < 0x20 then '\\' :: 'u' :: Text.Hex.padded 4 c.toNat
  else [c]

def string (text : List Char) : List Char := '"' :: text.flatMap escape ++ ['"']

end MediaSocket.Text.Json
