/-!
# Entries — maps in order of insertion

A map is a list of keys and values in the order in which the keys arrived.  Writing to a key that is there keeps its
place; a new key goes to the end.
-/

namespace CallContract

-- A map from text, in order of insertion.
abbrev Entries (α : Type) := List (String × α)

namespace Entries

variable {α : Type}

def get? (key : String) : Entries α → Option α
  | [] => none
  | (k, v) :: rest => if k = key then some v else get? key rest

def has (key : String) (entries : Entries α) : Bool := (get? key entries).isSome

def put (key : String) (value : α) : Entries α → Entries α
  | [] => [(key, value)]
  | (k, v) :: rest => if k = key then (k, value) :: rest else (k, v) :: put key value rest

def erase (key : String) : Entries α → Entries α
  | [] => []
  | (k, v) :: rest => if k = key then rest else (k, v) :: erase key rest

def keys (entries : Entries α) : List String := entries.map (·.1)

def values (entries : Entries α) : List α := entries.map (·.2)

-- The map that writing pairs one after the other gives.
def ofPairs (pairs : List (String × α)) : Entries α := pairs.foldl (fun m p => put p.1 p.2 m) []

theorem get?_put (key key' : String) (value : α) (m : Entries α) :
    get? key' (put key value m) = if key = key' then some value else get? key' m := by
  induction m with
  | nil => simp [put, get?]
  | cons p rest ih =>
    obtain ⟨k, v⟩ := p
    by_cases h : k = key
    · subst h; by_cases h' : k = key' <;> simp [put, get?, h']
    · by_cases h' : k = key' <;> by_cases h'' : key = key' <;> simp_all [put, get?]

-- A key keeps its place, and a new key goes to the end.
theorem keys_put (key : String) (value : α) (m : Entries α) :
    keys (put key value m) = if key ∈ keys m then keys m else keys m ++ [key] := by
  induction m with
  | nil => simp [put, keys]
  | cons p rest ih =>
    obtain ⟨k, v⟩ := p
    by_cases h : k = key
    · simp [put, keys, h]
    · have h' : ¬key = k := fun e => h e.symm
      simp only [keys] at ih
      simp only [put, keys, h, if_false, List.map_cons, List.mem_cons, h', false_or, ih]
      by_cases hk : key ∈ rest.map (·.1) <;> simp [hk]

theorem keys_erase (key : String) (m : Entries α) : keys (erase key m) = (keys m).erase key := by
  induction m with
  | nil => rfl
  | cons p rest ih =>
    obtain ⟨k, v⟩ := p
    simp only [keys] at ih
    by_cases h : k = key <;> simp [erase, keys, h, ih]

theorem mem_keys_iff {key : String} {m : Entries α} : key ∈ keys m ↔ ∃ v, get? key m = some v := by
  induction m with
  | nil => simp [keys, get?]
  | cons p rest ih =>
    obtain ⟨k, v⟩ := p
    simp only [keys] at ih
    by_cases h : k = key
    · simp [keys, get?, h]
    · have h' : ¬key = k := fun e => h e.symm
      simp [keys, get?, h, h', ih]

end Entries

end CallContract
