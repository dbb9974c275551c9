import MediaSocket.Bytes

/-! Passwords made from random bytes: 22 letters and digits, all equally likely. -/

namespace MediaSocket.Stun.Password

def alphabet : List Char :=
  "ABCDEFGHIJKLMNOPQRSTUVWXYZabcdefghijklmnopqrstuvwxyz0123456789".toList

def length : Nat := 22

/-- The character that a random byte chooses. Six bits of the byte count, and two of their 64
values choose none. -/
def choose? (b : UInt8) : Option Char := alphabet[b.toNat / 4]?

/-- The password that random bytes choose; `none` if they are too few. -/
def generate? (random : Bytes) : Option String :=
  let chosen := (random.filterMap choose?).take length
  if chosen.length = length then some (String.ofList chosen) else none

/-- A generated password has the least length that is allowed. -/
theorem length_of_generate? {random : Bytes} {password : String}
    (h : generate? random = some password) : password.length = length := by
  simp only [generate?, Option.ite_none_right_eq_some, Option.some.injEq] at h
  obtain ⟨hlen, rfl⟩ := h
  simpa using hlen

end MediaSocket.Stun.Password
