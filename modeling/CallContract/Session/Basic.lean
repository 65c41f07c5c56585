import CallContract.Coercion
import CallContract.Resolution.Machine
import CallContract.Validation

/-!
# Session — work under names

A session gives names to contracts, parameters and contexts, and keeps the registry against which its contracts are
resolved.  It is worked on in steps.  A step either gives a result or is refused; what it did before a refusal stays
done.
-/

namespace CallContract

/-- Why a step gives no result. -/
inductive Refusal
  /-- Nothing goes by a name that the step uses. -/
  | unknownName
  | build (fault : BuildFault)
  | resolution (abort : Resolution.Abort)
  | context (fault : ContextFault)
  | validation (failure : Validation.Failure)
  /-- A context has no value at a key. -/
  | noEntry
  /-- A value to append to is no list. -/
  | notAList
  /-- A name stands for the lack of a parameter. -/
  | noParam

-- The place of a context; several names may share one.
abbrev Slot := Nat

structure Session where
  around : Coercion.Surroundings
  store : Store := {}
  registry : Registry := {}
  contracts : Entries ContractId := []
  /-- The parameters by name; a name may stand for the lack of one. -/
  params : Entries (Option ParamId) := []
  contexts : Entries Slot := []
  slots : Array Value := #[]
  /-- The identity of the next new list or object. -/
  nextIdentity : Nat := 0
  /-- How often the counter of defaults has been used. -/
  uses : Nat := 0
  /-- What the current step has recorded. -/
  journal : Journal := []
  /-- The predicates that the current step has asked, with what they were asked about. -/
  calls : List (String × Value) := []

-- A step of a session; a refused one keeps what was done before.
abbrev Step := EStateM Refusal Session

/-- What a step gives, what it has recorded, and the predicates that it has asked. -/
structure Report (α : Type) where
  result : Except Refusal α
  journal : Journal
  calls : List (String × Value)

namespace Session

def take {α : Type} (step : Step α) (s : Session) : Report α × Session :=
  match step { s with journal := [], calls := [] } with
  | .ok a s => ({ result := .ok a, journal := s.journal, calls := s.calls }, s)
  | .error refusal s => ({ result := .error refusal, journal := s.journal, calls := s.calls }, s)

def note (journal : Journal) : Step Unit := modify fun s => { s with journal := s.journal ++ journal }

def built {α : Type} : Except BuildFault α → Step α
  | .ok a => pure a
  | .error fault => throw (.build fault)

/-! ## Names -/

def named {α : Type} (name : String) (entries : Entries α) : Step α :=
  match Entries.get? name entries with
  | some a => pure a
  | none => throw .unknownName

-- The identity of the contract under a name.
def contractId (name : String) : Step ContractId := do named name (← get).contracts

def contract (name : String) : Step Contract := do
  let id ← contractId name
  return (← get).store.contract id

-- The identity of the parameter under a name, which may stand for the lack of one.
def paramId? (name : String) : Step (Option ParamId) := do named name (← get).params

/-- The identity of the parameter under a name. -/
def paramId (name : String) : Step ParamId := do
  match ← paramId? name with
  | some id => return id
  | none => throw .noParam

/-- The parameter under a name, which may stand for the lack of one. -/
def param? (name : String) : Step (Option Param) := do
  let id? ← paramId? name
  return id?.map (← get).store.param

def param (name : String) : Step Param := do
  let id ← paramId name
  return (← get).store.param id

def nameOf? (s : Session) (c : ContractId) : Option String := (s.contracts.find? (·.2 = c)).map (·.1)

end Session

end CallContract
