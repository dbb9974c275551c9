/-!
Message types: class and method of a STUN message in one 14-bit number. The bits of the class
stand between those of the method, `M11…M7 C1 M6…M4 C0 M3…M0`.
-/

namespace MediaSocket.Stun

inductive MessageClass where
  | request
  | indication
  | success
  | error
  deriving DecidableEq, Repr

/-- What a message asks for or answers. Methods have 12 bits, of which only Binding has a name;
`other` may hold any number, and its 12 low bits count. -/
inductive Method where
  | binding
  | other (number : UInt16)
  deriving DecidableEq, Repr

namespace MessageClass

def number : MessageClass → Nat
  | .request => 0
  | .indication => 1
  | .success => 2
  | .error => 3

/-- The class with this number modulo 4. -/
def ofNumber (n : Nat) : MessageClass :=
  match n % 4 with
  | 0 => .request
  | 1 => .indication
  | 2 => .success
  | _ => .error

end MessageClass

namespace Method

/-- The 12 bits of a method. -/
def number : Method → Nat
  | .binding => 1
  | .other n => n.toNat % 4096

/-- The method with these 12 low bits. -/
def ofNumber (n : Nat) : Method :=
  if n % 4096 = 1 then .binding else .other (UInt16.ofNat (n % 4096))

end Method

def packType (c : MessageClass) (m : Method) : UInt16 :=
  let n := m.number
  UInt16.ofNat
    (n / 128 * 512 + c.number / 2 * 256 + n / 16 % 8 * 32 + c.number % 2 * 16 + n % 16)

/-- Class and method of a message type; its two highest bits do not count. -/
def unpackType (type : UInt16) : MessageClass × Method :=
  let n := type.toNat
  (.ofNumber (n / 256 % 2 * 2 + n / 16 % 2),
    .ofNumber (n / 512 % 32 * 128 + n / 32 % 8 * 16 + n % 16))

end MediaSocket.Stun
