import CallContract.Session.Params

/-!
# Contracts — building, registering and resolving

A contract is built from a draft, whose parts are checked one after the other; the first faulty part refuses it.
-/

namespace CallContract

/-- A reference to be made. -/
inductive ReferenceDraft
  | name (serviceName : String)
  | fields (given : Fields)

namespace ReferenceDraft

def build : ReferenceDraft → Except BuildFault Reference
  | .name serviceName => .ok { serviceName }
  | .fields given => Reference.ofFields given

end ReferenceDraft

/-- A contract to be made. -/
structure ContractDraft where
  info : ServiceInfo
  params : List ParamDraft := []
  declared : List ReferenceDraft := []
  patches : List PatchDraft := []
  properties : Entries Value := []
  internalGroup? : Option (List ReferenceDraft) := none
  permission? : Option Fields := none
  semaphoreName? : Option String := none
  loudnessName? : Option String := none

namespace Session

/-! ## Building -/

/-- The member of an enumeration that a text names in any case, or else the standard one. -/
def listedOr {α : Type} (standard : α) (enumeration : String) (ofName? : String → Option α) :
    Option String → Step α
  | none => pure standard
  | some text =>
    let text := String.ofList (Text.lower text.toList)
    match ofName? text with
    | some a => pure a
    | none => throw (.build (.notListed text enumeration))

/-- Makes the contract of a draft under a name. -/
def buildContract (name : String) (d : ContractDraft) : Step Contract := do
  let params ← d.params.mapM makeParam
  let params := params.filterMap id
  let declared ← d.declared.mapM fun r => built r.build
  let patches ← d.patches.mapM fun p => built p.build
  let internalGroup? ← d.internalGroup?.mapM fun refs => refs.mapM fun r => built r.build
  let permission? ← d.permission?.mapM fun fields => built (Permission.ofFields fields)
  let semaphore ← listedOr d.info.semaphore "SemaphorePolicy" SemaphorePolicy.ofName? d.semaphoreName?
  let loudness ← listedOr d.info.loudness "LogLevel" Loudness.ofName? d.loudnessName?
  let c : Contract :=
    { info := { d.info with permission?, semaphore, loudness }, declared, patches, properties := d.properties,
      internalGroup? }
  modify fun s =>
    { s with store := s.store.build c params, contracts := Entries.put name s.store.contracts.size s.contracts }
  contract name

/-! ## Parameters of a contract -/

/-- The names of the parameters of a contract. -/
def paramNames (name : String) : Step (List String) := do
  let c ← contract name
  return ((← get).store.paramsOf c).map (·.name)

/-- The parameter of a contract under a key. -/
def paramAt (name key : String) : Step (Option Param) := do
  let c ← contract name
  return (Entries.get? key c.params).map (← get).store.param

/-- Puts a parameter, if there is one, into a contract, and gives the names of its parameters. -/
def insertParam (name : String) (draft? : Option ParamDraft) : Step (List String) := do
  let c ← contractId name
  let id? ← draft?.mapM makeParam
  match id?.join with
  | none => pure ()
  | some id => modify fun s => { s with store := s.store.insert c id }
  paramNames name

/-- Puts a copy of a parameter, if there is one, into a contract, and gives the names of its parameters. -/
def insertClone (name : String) (draft? : Option ParamDraft) : Step (List String) := do
  let c ← contractId name
  let id? ← draft?.mapM makeParam
  match id?.join with
  | none => pure ()
  | some id =>
    let copy ← built ((← get).store.param id).clone
    let id ← addParam copy
    modify fun s => { s with store := s.store.insert c id }
  paramNames name

/-- Takes a parameter out of a contract, and gives it with the names of the parameters that are left. -/
def removeParam (name key : String) : Step (Option Param × List String) := do
  let removed? ← paramAt name key
  let c ← contractId name
  modify fun s =>
    let contract := s.store.contract c
    { s with store := s.store.setContract c { contract with params := Entries.erase key contract.params } }
  return (removed?, ← paramNames name)

/-- Lets a name stand for a parameter of a contract, which is then shared, or for the lack of one. -/
def shareParam (name key paramName : String) : Step (Option Param) := do
  let c ← contract name
  nameParam paramName (Entries.get? key c.params)
  param? paramName

/-- The parameters of a contract that are converted in place, which are looked up once. -/
def convertible (name : String) : Step (List Param) := do
  let c ← contractId name
  modify fun s => { s with store := s.store.lookUpConvertible c }
  let s ← get
  return (s.store.convertible (s.store.contract c)).map s.store.param

/-- Forgets which parameters of a contract are converted in place. -/
def forgetConvertible (name : String) : Step Unit := do
  let c ← contractId name
  modify fun s => { s with store := s.store.setContract c { s.store.contract c with convertible? := none } }

/-! ## Registering -/

/-- Registers contracts one after the other, each looked up when its turn comes.  What is refused ends the work; the links
between contracts that were made before stay made. -/
def registerAll (r : Registry) (names : List String) : Step Registry :=
  names.foldlM (fun r name => do
    let c ← contractId name
    match r.register (← get).store c with
    | .ok (r, store, journal) =>
      modify fun s => { s with store }
      note journal
      return r
    | .error fault => throw (.build (.definition fault))) r

def register (name : String) : Step Unit := do
  let registry ← registerAll (← get).registry [name]
  modify fun s => { s with registry }

/-- Replaces the registry by one that holds the given contracts; when one of them is refused the old registry stays. -/
def replaceRegistry (names : List String) : Step (List String) := do
  let registry ← registerAll {} names
  modify fun s => { s with registry }
  return registry.names

def registerGroup (location : String) (members : List ReferenceDraft) : Step Unit := do
  let members ← members.mapM fun r => built r.build
  modify fun s => { s with registry := s.registry.registerGroup location members }

/-- The draft of one contract of a chain, whose references lead to the next one. -/
def linkDraft (start : String) (i : Nat) (next? : Option Nat) (withParam : Bool) : ContractDraft :=
  { info := { name := start ++ toString i }
    declared := next?.toList.map fun n => .name (start ++ toString n)
    params := if withParam then [.new { name := "p" ++ toString i } none] else [] }

/-- Builds and registers contracts each of which inherits from the next one; in a cyclic chain the last one inherits
from the first. -/
def buildChain (start : String) (count : Nat) (withParams isCyclic : Bool) : Step Unit :=
  (List.range count).forM fun i => do
    let next? := if i + 1 < count then some (i + 1) else if isCyclic then some 0 else none
    let _ ← buildContract (start ++ toString i) (linkDraft start i next? withParams)
    register (start ++ toString i)

/-! ## Versions -/

/-- Lets a contract supersede an earlier definition. -/
def supersede (name : String) (previous? : Option String) : Step Unit := do
  let c ← contractId name
  match previous? with
  | none => pure ()
  | some previous =>
    let previous ← contractId previous
    let s ← get
    match s.store.supersede c previous with
    | .ok (store, journal) =>
      set { s with store }
      note journal
    | .error fault => throw (.build (.definition fault))

/-- The names of a contract and of the earlier definitions that it supersedes. -/
def versions (name : String) : Step (List (Option String)) := do
  let c ← contractId name
  let s ← get
  return (s.store.versions c).map s.nameOf?

/-! ## Resolving -/

/-- The ceiling that resolution kept to, and what it reported. -/
structure Resolved where
  limit : Int
  warnings : List Resolution.Warning

/-- The store and the records after resolution. -/
def absorb (w : Resolution.Work) : Step Unit := do
  modify fun s => { s with store := w.store }
  note w.journal

/-- Resolves a contract; the ceiling is that of the settings unless one is given. -/
def resolve (name : String) (limit? : Option Int) (hasGroups : Bool) : Step Resolved := do
  let c ← contractId name
  let s ← get
  let (limit, journal) := match limit? with
    | some limit => (limit, [])
    | none => s.around.settings.maxDepth
  note journal
  match Resolution.resolve { registry := s.registry, hasGroups } limit c { store := s.store } with
  | .ok _ w =>
    absorb w
    return { limit, warnings := w.warnings }
  | .error abort w =>
    absorb w
    throw (.resolution abort)

/-! ## Records of one contract -/

/-- The problems of a contract, which are recorded. -/
def checkHealth (name : String) : Step (List String) := do
  let (problems, journal) := (← contract name).checkHealth
  note journal
  return problems

/-- Records that a contract has been replaced, if it has. -/
def noteDeprecation (name : String) (warn : Bool) : Step Unit := do
  note ((← contract name).deprecation warn)

end Session

end CallContract
