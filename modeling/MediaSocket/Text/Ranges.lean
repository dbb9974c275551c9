/-! Sets of characters as ranges of code points. -/

namespace MediaSocket.Text

/-- Ranges of code points in ascending order, ends included. -/
abbrev Ranges := List (Nat × Nat)

def Ranges.contains (ranges : Ranges) (c : Char) : Bool :=
  ranges.any fun range => range.1 ≤ c.toNat && c.toNat ≤ range.2

end MediaSocket.Text
