import CallContract.Store

/-!
# Views — the parameters of a contract, selected and counted
-/

namespace CallContract.Store

variable (s : Store) (c : Contract)

-- The parameters with the given names, in the order of the names; unknown names are passed over.
def named (names : List String) : List Param := names.filterMap fun n => (Entries.get? n c.params).map s.param

/-- The reserved parameters of a system mode. -/
def reserved? (mode : Mode) : Option (List Param) :=
  match mode with
  | .system d => some (s.named c (Mode.reserved d))
  | _ => none

/-- Whether a parameter is wanted: optional and internal ones only when they are asked for. -/
def isWanted (withOptional withInternal : Bool) (p : Param) : Bool :=
  (withOptional || !p.optional) && (withInternal || !p.internal)

/-- The names of the parameters that take part in a direction; none for a mode that is no direction. -/
def namesFor (mode : Mode) (withOptional withInternal : Bool) : List String :=
  match mode with
  | .plain _ =>
    let isListed := fun (p : Param) => p.mode.takesPartIn mode && isWanted withOptional withInternal p
    ((s.paramsOf c).filter isListed).map (·.name)
  | _ => []

/-- The number of required parameters for a direction, internal ones apart. -/
def requiredCount (direction : Mode) : Nat :=
  (s.paramsOf c).countP fun p => p.mode.takesPartIn direction && !p.optional && !p.internal

/-- The number of optional parameters for a direction, internal ones apart. -/
def optionalCount (direction : Mode) : Nat :=
  (s.paramsOf c).countP fun p => p.mode.takesPartIn direction && p.optional && !p.internal

-- The number of parameters for a direction, internal ones apart.
def definedCount (direction : Mode) : Nat := s.requiredCount c direction + s.optionalCount c direction

-- The parameters that go into the service.
def inputs : List Param := (s.paramsOf c).filter fun p => p.mode.isInput

-- The parameters that come out of the service.
def outputs : List Param := (s.paramsOf c).filter fun p => p.mode.isOutput

-- Names in the order of their characters.
def sorted (names : List String) : List String := names.mergeSort fun a b => decide (a ≤ b)

/-- The values for the parameters that go into the service, in order, without those that are missing or null. -/
def sequence (source : Entries Value) : List Value :=
  (s.inputs c).filterMap fun p => (Entries.get? p.name source).filter (!·.isNull)

end CallContract.Store
