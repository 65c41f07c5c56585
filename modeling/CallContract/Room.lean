/-!
# Room — how deep work can go into collections

Work that goes into the members of a collection and comes back takes room on the stack as long as it is inside.  How
much room there is depends on the machine and on the caller, and what a collection takes of it on the kind of work and
on the kind of collection.  Where the room does not suffice the work is given up.
-/

namespace CallContract

/-- Work that goes into collections. -/
inductive Walk
  /-- Reading JSON text. -/
  | reading
  /-- Writing a value as text. -/
  | writing
  | copying
  /-- Comparing two equal values. -/
  | comparing
  deriving DecidableEq

/-- The kinds of collections. -/
inductive Shape
  | list | tuple | set | map | readOnlyMap
  deriving DecidableEq

/-- The room on the stack, and what a collection takes of it from work that is inside. -/
structure Room where
  size : Nat
  share : Walk → Shape → Nat

namespace Room

-- The room in which every collection takes one place.
def ofPlaces (places : Nat) : Room := ⟨places, fun _ _ => 1⟩

/-- The room that is left inside of a collection; `none` where it does not suffice. -/
def inside? (r : Room) (walk : Walk) (shape : Shape) : Option Room :=
  if r.share walk shape ≤ r.size then some { r with size := r.size - r.share walk shape } else none

end Room

end CallContract
