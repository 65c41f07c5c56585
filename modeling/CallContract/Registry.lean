import CallContract.Store

/-!
# Registry — contracts by name, and groups by location

The contract that is registered last under a name is the one that is found; it supersedes the one before.
-/

namespace CallContract

structure Registry where
  contracts : Entries ContractId := []
  groups : Entries (List Reference) := []

namespace Registry

def find? (r : Registry) (name : String) : Option ContractId := Entries.get? name r.contracts

-- The members of the group at a location.
def members (r : Registry) (location : String) : List Reference := (Entries.get? location r.groups).getD []

def names (r : Registry) : List String := Entries.keys r.contracts

/-- Registers a contract under its name; another one of that name is superseded first. -/
def register (r : Registry) (s : Store) (c : ContractId) : Except DefinitionFault (Registry × Store × Journal) :=
  let name := (s.contract c).name
  let registered : Registry := { r with contracts := Entries.put name c r.contracts }
  match r.find? name with
  | none => .ok (registered, s, [])
  | some previous =>
    if previous = c then .ok (registered, s, [])
    else match s.supersede c previous with
      | .ok (s, journal) => .ok (registered, s, journal)
      | .error fault => .error fault

def registerGroup (r : Registry) (location : String) (members : List Reference) : Registry :=
  { r with groups := Entries.put location members r.groups }

end Registry

end CallContract
