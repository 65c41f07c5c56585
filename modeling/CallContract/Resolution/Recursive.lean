import CallContract.Resolution.Inheritance

/-!
# Recursive — resolution by plain recursion

A contract is resolved after its dependencies, each of which is resolved the same way with one level less to go.
-/

namespace CallContract.Resolution

/-- Resolves one dependency unless it is resolved already. -/
def visitIfNeeded (visit : ContractId → Action Unit) (c : ContractId) : Action Unit := do
  let w ← get
  if (w.store.contract c).resolved then return () else visit c

/-- Resolves what a reference stands for and merges it. -/
def followReference (visit : ContractId → Action Unit) (d : Directory) (c : ContractId) (ref : Reference) :
    Action Unit := do
  let w ← get
  match target d w.store c ref with
  | .predecessor p => merge c p ref
  | .missing => modify fun w => w.warn (.missingInterface (w.store.contract c).name ref.serviceName)
  | .found i =>
    visitIfNeeded visit i
    merge c i ref

/-- Resolves one contract, given how a dependency is resolved. -/
def resolveWith (visit : ContractId → Action Unit) (d : Directory) (c : ContractId) : Action Unit := do
  let w ← get
  match predecessor? w.store c with
  | some p => visitIfNeeded visit p
  | none => pure ()
  modify (expandGroup d c)
  let w ← get
  (w.store.contract c).declared.forM (followReference visit d c)
  complete c

/-- Resolves a contract with a number of further levels to go. -/
def resolveWithin (d : Directory) (limit : Int) : Nat → ContractId → Action Unit
  | 0 => resolveWith (fun dependency => do throw (.tooDeep ((← get).store.contract dependency).name limit)) d
  | levels + 1 => resolveWith (resolveWithin d limit levels) d

/-- Resolves a contract and everything it depends on, by plain recursion; at most `limit` resolutions are nested. -/
def resolveRecursively (d : Directory) (limit : Int) (c : ContractId) : Action Unit :=
  visitIfNeeded (resolveWithin d limit (limit.toNat - 1)) c

end CallContract.Resolution
