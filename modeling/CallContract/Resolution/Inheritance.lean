import CallContract.Registry

/-!
# Inheritance — what happens to a contract once its dependencies are resolved

A contract takes the parameters and properties of each interface in turn, then its patches are applied, and then it is
resolved.  Each of these is one action on the work done so far; an action that fails keeps the work up to its failure.
-/

namespace CallContract.Resolution

open CallContract.Text

/-! ## Work -/

/-- A matter that resolution reports without failing. -/
inductive Warning
  /-- A patch names no parameter. -/
  | danglingPatch (service name : String)
  /-- A declared interface is not registered. -/
  | missingInterface (service name : String)
  deriving DecidableEq

namespace Warning

def message : Warning → String
  | .danglingPatch service name =>
    "Override param found but no parameter existing; ignoring: " ++ service ++ "." ++ name
  | .missingInterface service name => "Inherited model [" ++ name ++ "] not found for [" ++ service ++ "]"

def event : Warning → String
  | .danglingPatch _ _ => "DanglingOverride"
  | .missingInterface _ _ => "UnresolvedInterfaceReference"

def service : Warning → String
  | .danglingPatch service _ | .missingInterface service _ => service

def name : Warning → String
  | .danglingPatch _ name | .missingInterface _ name => name

end Warning

/-- Why resolution ends early. -/
inductive Abort
  /-- The ceiling of nested resolutions was reached before the service. -/
  | tooDeep (service : String) (limit : Int)
  /-- An inherited parameter cannot be copied. -/
  | build (fault : BuildFault)

/-- The message about a ceiling that was reached, with the ceiling as a text. -/
def tooDeepText (service limit : String) : String :=
  "Interface resolution stack overflow for service [" ++ service ++ "]; " ++ limit ++ " nested calls reached"

/-- The message about a ceiling that was reached. -/
def tooDeepMessage (service : String) (limit : Int) : String :=
  tooDeepText service (String.ofList (Number.Whole.digitsText limit))

/-- The store as it has become, and what has been reported and recorded. -/
structure Work where
  store : Store
  warnings : List Warning := []
  journal : Journal := []

/-- Where contracts are looked up; without groups no group has members. -/
structure Directory where
  registry : Registry
  hasGroups : Bool := true

-- An action on the work; a failing one keeps what was done before.
abbrev Action := EStateM Abort Work

namespace Work

def record (level : Level) (message : String) (details? : Option Details) (w : Work) : Work :=
  { w with journal := w.journal ++ [{ level, channel := .resolution, message, details? }] }

def note (message : String) (w : Work) : Work := w.record .debug message none

def warn (warning : Warning) (w : Work) : Work :=
  let w := w.record .warning warning.message
    (some { event := warning.event, service? := some warning.service, param? := some warning.name })
  { w with warnings := w.warnings ++ [warning] }

def change (c : ContractId) (f : Contract → Contract) (w : Work) : Work :=
  { w with store := w.store.setContract c (f (w.store.contract c)) }

end Work

def shownTexts (texts : List String) : String :=
  String.ofList ('[' :: joinWith [',', ' '] (texts.map fun t => quoted t.toList) ++ [']'])

/-! ## Groups -/

-- Whether a contract stands for a group and declares nothing itself.
def isGroup (c : Contract) : Bool := c.info.engine = Contract.groupEngine && c.declared.isEmpty

/-- The members of the group that a contract stands for. -/
def groupMembers (d : Directory) (c : Contract) : List Reference :=
  match c.internalGroup? with
  | some members => members
  | none => match c.info.location? with
    | some location => if d.hasGroups && location ≠ "" then d.registry.members location else []
    | none => []

/-- The members as references that are not optional. -/
def groupReferences (d : Directory) (c : Contract) : List Reference :=
  (groupMembers d c).map fun m => { serviceName := m.serviceName }

/-- The references that a contract declares once its group is expanded. -/
def expandedReferences (d : Directory) (c : Contract) : List Reference :=
  if isGroup c then groupReferences d c else c.declared

/-- Lets a group contract declare its members. -/
def expandGroup (d : Directory) (c : ContractId) (w : Work) : Work :=
  let contract := w.store.contract c
  if isGroup contract then
    let refs := groupReferences d contract
    (w.change c fun k => { k with declared := expandedReferences d contract }).note
      ("Expanded group service [" ++ contract.name ++ "] to interfaces " ++ shownTexts (refs.map (·.serviceName)))
  else w

/-! ## Interfaces -/

/-- A parameter that is there and is inherited too: directions that differ become both, and then it is optional if
either is. -/
def widen (existing inherited : Param) : Param :=
  if existing.mode ≠ inherited.mode ∧ existing.mode ≠ .both then
    { existing with mode := .both, optional := existing.optional || inherited.optional }
  else existing

/-- A copy to inherit: through an optional reference it is optional. -/
def inheritedCopy (ref : Reference) (p : Param) : Except BuildFault Param :=
  p.clone.map fun p => { p with optional := p.optional || ref.optional }

def takeParam (c : ContractId) (ref : Reference) (id : ParamId) : Action Unit := do
  let w ← get
  let p := w.store.param id
  match Entries.get? p.name (w.store.contract c).params with
  | some existing => set { w with store := w.store.setParam existing (widen (w.store.param existing) p) }
  | none =>
    match inheritedCopy ref p with
    | .error fault => throw (.build fault)
    | .ok p =>
      let id := w.store.params.size
      set { w with store := (w.store.pushParam p).insert c id }

/-- The properties of an interface that a contract does not have. -/
def newProperties (c interface : Contract) : Entries Value :=
  interface.properties.filter fun p => !Entries.has p.1 c.properties

/-- The message about inherited properties. -/
def inheritedMessage (c interface : Contract) : String :=
  "Service [" ++ c.name ++ "] inherited properties " ++ shownTexts (Entries.keys (newProperties c interface))
    ++ " from [" ++ interface.name ++ "]"

/-- Takes the properties of an interface that the contract does not have. -/
def takeProperties (c interface : ContractId) (w : Work) : Work :=
  if (newProperties (w.store.contract c) (w.store.contract interface)).isEmpty then w
  else
    (w.change c fun k => { k with properties := k.properties ++ newProperties k (w.store.contract interface) }).note
      (inheritedMessage (w.store.contract c) (w.store.contract interface))

/-- Takes the parameters of an interface in order. -/
def takeParams (c interface : ContractId) (ref : Reference) : Action Unit := do
  let w ← get
  (w.store.contract interface).paramIds.forM (takeParam c ref)

/-- Takes the parameters and properties of an interface. -/
def merge (c interface : ContractId) (ref : Reference) : Action Unit := do
  takeParams c interface ref
  modify (takeProperties c interface)

/-! ## Patches -/

/-- Applies one patch: the parameter goes to the end as a changed copy. -/
def applyPatch (c : ContractId) (patch : Patch) : Action Unit := do
  let w ← get
  let contract := w.store.contract c
  match Entries.get? patch.name contract.params with
  | none => set (w.warn (.danglingPatch contract.name patch.name))
  | some existing =>
    let w := w.change c fun k => { k with params := Entries.erase patch.name k.params }
    set w
    match (w.store.param existing).clone with
    | .error fault => throw (.build fault)
    | .ok copy =>
      let id := w.store.params.size
      set { w with store := (w.store.pushParam (patch.apply copy)).insert c id }

/-! ## Completion -/

/-- The declared references without those to the definition that the contract supersedes. -/
def withoutPredecessor (predecessor? : Option String) (refs : List Reference) : List Reference :=
  match predecessor? with
  | some name => refs.filter (·.serviceName ≠ name)
  | none => refs

-- The definition that a contract supersedes.
def predecessor? (s : Store) (c : ContractId) : Option ContractId := (s.contract c).supersedes?

/-- The name of the definition that a contract supersedes. -/
def predecessorName? (s : Store) (c : ContractId) : Option String :=
  (predecessor? s c).map fun p => (s.contract p).name

/-- Drops the references to the definition that a contract supersedes. -/
def dropPredecessor (c : ContractId) (w : Work) : Work :=
  w.change c fun k => { k with declared := withoutPredecessor (predecessorName? w.store c) k.declared }

def markResolved (c : ContractId) (w : Work) : Work :=
  (w.change c fun k => { k with convertible? := none, resolved := true }).note
    ("Resolved service [" ++ (w.store.contract c).name ++ "] with "
      ++ toString (w.store.contract c).params.length ++ " params")

/-- Applies the patches of a contract in order. -/
def applyPatches (c : ContractId) : Action Unit := do
  let w ← get
  (w.store.contract c).patches.forM (applyPatch c)

/-- Ends the resolution of a contract whose interfaces have been merged. -/
def complete (c : ContractId) : Action Unit := do
  modify (dropPredecessor c)
  applyPatches c
  modify (markResolved c)

/-- What a reference of a contract stands for. -/
inductive Target
  /-- The definition that the contract supersedes, which needs no look-up. -/
  | predecessor (p : ContractId)
  | found (c : ContractId)
  | missing

def target (d : Directory) (s : Store) (c : ContractId) (ref : Reference) : Target :=
  let found := match d.registry.find? ref.serviceName with
    | some i => .found i
    | none => .missing
  match predecessor? s c with
  | some p => if (s.contract p).name = ref.serviceName then .predecessor p else found
  | none => found

end CallContract.Resolution
