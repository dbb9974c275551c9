/-! Time in nanoseconds. -/

namespace MediaSocket

/-- A moment, in nanoseconds since some start. Clocks never go back. -/
abbrev Time := Nat

/-- A span of time, in nanoseconds. -/
abbrev Span := Nat

namespace Span

def seconds (n : Nat) : Span := n * 1000000000

def milliseconds (n : Nat) : Span := n * 1000000

end Span

end MediaSocket
