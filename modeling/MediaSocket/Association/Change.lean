import MediaSocket.Association.Registry

/-! The changes that a registry goes through. -/

namespace MediaSocket.Registry

inductive Change where
  | register (a : Address) (now : Time)
  | setKeys (id : AssociationId) (keys : Srtp.Negotiated)
  | prune (maxIdle : Span) (now : Time)
  deriving DecidableEq, Repr

/-- When a change takes place, if that matters. -/
def Change.time? : Change → Option Time
  | .register _ now | .prune _ now => some now
  | .setKeys .. => none

/-- Whether time never goes back from one change to the next. -/
def Chronological (changes : List Change) : Prop :=
  (changes.filterMap Change.time?).Pairwise (· ≤ ·)

/-- The registry after a change; keys for an unknown id change nothing. -/
def change (r : Registry) : Change → Registry
  | .register a now => r.register a now
  | .setKeys id keys => (r.setKeys? id keys).getD r
  | .prune maxIdle now => r.prune maxIdle now

def changeAll (r : Registry) (changes : List Change) : Registry := changes.foldl change r

end MediaSocket.Registry
