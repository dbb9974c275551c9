import MediaSocket.Association.Change
import MediaSocket.History

/-!
What the changes of a registry so far say about an id, without the registry. A life of an id begins
with the sighting of an address that has the id, and lasts until a prune finds the id silent.
-/

namespace MediaSocket.Registry

variable (width : IdWidth) (id : AssociationId)

/-- Whether a change is the sighting of an address with the id. -/
def Sights : Change → Prop
  | .register a _ => AssociationId.derive a width = id
  | _ => False

/-- When a change is the sighting of an address with the id. -/
def Change.sighting? : Change → Option Time
  | .register a now => if AssociationId.derive a width = id then some now else none
  | _ => none

def Change.keysFor? : Change → Option Srtp.Negotiated
  | .setKeys x keys => if x = id then some keys else none
  | _ => none

/-- Whether a change is a prune at a time at which the id has not been seen for long enough. -/
def Evicts (before : List Change) : Change → Prop
  | .prune maxIdle now =>
    ∃ seen, latest? (Change.sighting? width id) before = some seen ∧ maxIdle ≤ now - seen
  | _ => False

/-- The id has been seen, and not been evicted after that. -/
def Known (changes : List Change) : Prop :=
  Lasts (Sights width id) (Evicts width id) changes

/-- The changes are `front`, the sighting of `a` at `began`, and `back`; that sighting is the first
one since the id was last evicted. -/
structure Life (changes front : List Change) (a : Address) (began : Time)
    (back : List Change) : Prop where
  split : changes = front ++ .register a began :: back
  owner : AssociationId.derive a width = id
  fresh : ¬Known width id front
  spared : Spared (Evicts width id) (front ++ [.register a began]) back

/-- A registry knows what the changes say, and nothing else. -/
structure Remembers (changes : List Change) (r : Registry) : Prop where
  width_eq : r.width = width
  contains_iff : ∀ id, r.contains id = true ↔ Known width id changes
  alive : ∀ id, Known width id changes →
    ∃ front a began back, Life width id changes front a began back
  /-- The first sighting of a life gives the address, the latest one counts for idleness, and only
  keys set during the life are known. -/
  peer : ∀ id front a began back, Life width id changes front a began back →
    r.addressOf? id = some a ∧ r.keysOf? id = latest? (Change.keysFor? id) back ∧
      ∃ p, r.get? id = some p ∧ p.firstSeen = began ∧
        latest? (Change.sighting? width id) changes = some p.lastSeen

end MediaSocket.Registry
