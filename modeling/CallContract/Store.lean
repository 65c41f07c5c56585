import CallContract.Contract

/-!
# Store — parameters and contracts by identity

Every parameter and every contract that has been made is in the store, in the order of making.  Contracts refer to
parameters and to each other by identity, so a change of a shared parameter shows in every contract that holds it.
-/

namespace CallContract

structure Store where
  params : Array Param := #[]
  contracts : Array Contract := #[]

namespace Store

/-! ## Parameters -/

def param (s : Store) (id : ParamId) : Param := s.params[id]?.getD default

-- The store with a new parameter, whose identity is the number of parameters before.
def pushParam (s : Store) (p : Param) : Store := { s with params := s.params.push p }

def setParam (s : Store) (id : ParamId) (p : Param) : Store := { s with params := s.params.setIfInBounds id p }

/-! ## Contracts -/

def contract (s : Store) (id : ContractId) : Contract := s.contracts[id]?.getD default

-- The store with a new contract, whose identity is the number of contracts before.
def pushContract (s : Store) (c : Contract) : Store := { s with contracts := s.contracts.push c }

def setContract (s : Store) (id : ContractId) (c : Contract) : Store :=
  { s with contracts := s.contracts.setIfInBounds id c }

-- The parameters of a contract, in order.
def paramsOf (s : Store) (c : Contract) : List Param := c.paramIds.map s.param

/-- A contract with a parameter under its name: a new name goes to the end, and a known one keeps its place. -/
def holding (s : Store) (c : Contract) (id : ParamId) : Contract :=
  { c with params := Entries.put (s.param id).name id c.params }

def insert (s : Store) (c : ContractId) (id : ParamId) : Store := s.setContract c (s.holding (s.contract c) id)

/-- Builds a contract that holds parameters; repeated references count once. -/
def build (s : Store) (c : Contract) (params : List ParamId) : Store :=
  let info := { c.info with useTransaction := c.info.useTransaction || c.info.requireNewTransaction }
  s.pushContract (params.foldl s.holding { c with info, declared := Reference.distinct c.declared, params := [] })

/-! ## Versions -/

/-- The contracts from one on, each followed by the one it supersedes; at most `left` of them. -/
def versionsFrom (s : Store) (c? : Option ContractId) : Nat → List ContractId
  | 0 => []
  | left + 1 => match c? with
    | none => []
    | some c => c :: s.versionsFrom (s.contract c).supersedes? left

-- A contract and every earlier definition that it supersedes.
def versions (s : Store) (c : ContractId) : List ContractId := s.versionsFrom (some c) s.contracts.size

/-- The record that a contract supersedes another one. -/
def redefinition (s : Store) (c previous : ContractId) : Record :=
  Contract.record .info ("Service [" ++ (s.contract c).name ++ "] redefinition: previous: [id, "
    ++ toString (s.contract previous).params.length ++ " params]; new: [id, "
    ++ toString (s.contract c).params.length ++ " params]")

/-- Lets a contract supersede an earlier definition: the link is made at the end of the contract's versions.  A link
that would close a cycle is refused. -/
def supersede (s : Store) (c previous : ContractId) : Except DefinitionFault (Store × Journal) :=
  let own := s.versions c
  if (s.versions previous).any own.contains then .error (.cyclicVersions (s.contract c).name)
  else
    let last := own.getLastD c
    let s := s.setContract last { s.contract last with supersedes? := some previous }
    .ok (s, [s.redefinition c previous])

/-! ## Parameters to convert in place -/

/-- The parameters of a contract that are converted in place, looked up once. -/
def convertible (s : Store) (c : Contract) : List ParamId :=
  c.convertible?.getD (c.paramIds.filter fun id => (s.param id).typeConvert)

/-- The store in which those parameters have been looked up. -/
def lookUpConvertible (s : Store) (c : ContractId) : Store :=
  s.setContract c { s.contract c with convertible? := some (s.convertible (s.contract c)) }

/-! ## Small facts -/

@[simp] theorem param_setContract (s : Store) (c : ContractId) (k : Contract) (id : ParamId) :
    (s.setContract c k).param id = s.param id := rfl

@[simp] theorem contract_setParam (s : Store) (id : ParamId) (p : Param) (c : ContractId) :
    (s.setParam id p).contract c = s.contract c := rfl

@[simp] theorem contract_pushParam (s : Store) (p : Param) (c : ContractId) :
    (s.pushParam p).contract c = s.contract c := rfl

theorem contract_setContract_of_ne (s : Store) {c d : ContractId} (k : Contract) (h : c ≠ d) :
    (s.setContract c k).contract d = s.contract d := by
  simp [contract, setContract, Array.getElem?_setIfInBounds_ne h]

theorem contract_setContract_self (s : Store) {c : ContractId} (k : Contract) (h : c < s.contracts.size) :
    (s.setContract c k).contract c = k := by
  simp [contract, setContract, h]

theorem param_setParam_of_ne (s : Store) {i j : ParamId} (p : Param) (h : i ≠ j) :
    (s.setParam i p).param j = s.param j := by
  simp [param, setParam, Array.getElem?_setIfInBounds_ne h]

theorem param_setParam_self (s : Store) {i : ParamId} (p : Param) (h : i < s.params.size) :
    (s.setParam i p).param i = p := by
  simp [param, setParam, h]

end Store

end CallContract
