import CallContract.Proofs.Resolution.Actions
import Mathlib.Data.List.Chain
import Mathlib.Data.List.Perm.Subperm
import Mathlib.Logic.Relation

/-!
# Dependency — which contracts must be resolved before another one

A contract leads to the definition that it supersedes and to every interface that is found for a reference which it
declares, or will declare once its group is expanded.  An unresolved contract depends on the unresolved ones among
these.  Resolution changes what a contract declares while it walks along these edges, but not where an unresolved
contract leads; so the edges can be read off the store from which resolution starts.
-/

namespace CallContract.Resolution

open Relation

/-! ## 1. Edges, cycles and paths -/

/-- The contract that a reference stands for: the superseded definition if the reference names it, and otherwise the
contract that is found under the name. -/
def interface? (d : Directory) (s : Store) (c : ContractId) (ref : Reference) : Option ContractId :=
  match target d s c ref with
  | .predecessor p => some p
  | .found i => some i
  | .missing => none

/-- Where a contract leads. -/
def Leads (d : Directory) (s : Store) (c e : ContractId) : Prop :=
  predecessor? s c = some e ∨ ∃ ref ∈ expandedReferences d (s.contract c), interface? d s c ref = some e

/-- The contracts to which a contract leads, in order. -/
def leadsTo (d : Directory) (s : Store) (c : ContractId) : List ContractId :=
  (predecessor? s c).toList ++ (expandedReferences d (s.contract c)).filterMap (interface? d s c)

theorem mem_leadsTo {d : Directory} {s : Store} {c e : ContractId} : e ∈ leadsTo d s c ↔ Leads d s c e := by
  rw [leadsTo, List.mem_append, Option.mem_toList, List.mem_filterMap, Leads]

/-- An unresolved contract depends on the unresolved contracts to which it leads. -/
structure Depends (d : Directory) (s : Store) (c e : ContractId) : Prop where
  from_unresolved : (s.contract c).resolved = false
  to_unresolved : (s.contract e).resolved = false
  leads : Leads d s c e

/-- The contracts to which dependencies lead from a contract, itself included. -/
abbrev Reachable (d : Directory) (s : Store) : ContractId → ContractId → Prop := ReflTransGen (Depends d s)

/-- A contract that depends on itself, in one step or more. -/
def OnCycle (d : Directory) (s : Store) (c : ContractId) : Prop := TransGen (Depends d s) c c

/-- Contracts each of which depends on the next one. -/
def IsPath (d : Directory) (s : Store) (path : List ContractId) : Prop := path.IsChain (Depends d s)

/-- No dependencies lead on from a contract for ever. -/
def Grounded (d : Directory) (s : Store) (c : ContractId) : Prop := Acc (fun e c => Depends d s c e) c

variable {d : Directory} {s t u : Store}

theorem not_rel_of_acc {α : Type} {rel : α → α → Prop} {a : α} (h : Acc rel a) : ¬rel a a := by
  induction h with
  | intro a _ ih => exact fun hr => ih a hr hr

theorem Grounded.not_onCycle {c : ContractId} (h : Grounded d s c) : ¬OnCycle d s c := by
  intro hc
  exact not_rel_of_acc h.transGen (transGen_swap.mp hc)

theorem Grounded.of_reachable {c e : ContractId} (h : Grounded d s c) (he : Reachable d s c e) : Grounded d s e := by
  induction he with
  | refl => exact h
  | tail _ hd ih => exact ih.inv hd

-- A path from a grounded contract meets no contract twice.
theorem Grounded.nodup {c : ContractId} {path : List ContractId} (h : Grounded d s c)
    (hp : IsPath d s (c :: path)) : (c :: path).Nodup := by
  have htrans : (c :: path).IsChain (TransGen (Depends d s)) := hp.imp fun _ _ => TransGen.single
  have hpairs : (c :: path).Pairwise (TransGen (Depends d s)) := List.isChain_iff_pairwise.mp htrans
  have hreach : ∀ e ∈ c :: path, Reachable d s c e := by
    intro e he
    rcases List.mem_cons.mp he with rfl | he
    · exact .refl
    · exact ((List.pairwise_cons.mp hpairs).1 e he).to_reflTransGen
  refine hpairs.imp_of_mem fun {a b} ha _ hab he => ?_
  exact (h.of_reachable (hreach a ha)).not_onCycle (he ▸ hab)

-- A reference leads to the superseded definition of its contract, or to what the registry finds under its name.
theorem predecessor?_of_target {c p : ContractId} {ref : Reference} (h : target d s c ref = .predecessor p) :
    predecessor? s c = some p := by
  unfold target at h
  cases hp : predecessor? s c with
  | none =>
    rw [hp] at h
    cases hf : d.registry.find? ref.serviceName <;> rw [hf] at h <;> cases h
  | some q =>
    rw [hp] at h
    by_cases hn : (s.contract q).name = ref.serviceName
    · simp only [if_pos hn] at h
      cases h
      rfl
    · simp only [if_neg hn] at h
      cases hf : d.registry.find? ref.serviceName <;> rw [hf] at h <;> cases h

theorem find?_of_target {c i : ContractId} {ref : Reference} (h : target d s c ref = .found i) :
    d.registry.find? ref.serviceName = some i := by
  unfold target at h
  cases hf : d.registry.find? ref.serviceName with
  | none =>
    simp only [hf] at h
    split at h
    · split at h <;> cases h
    · cases h
  | some j =>
    simp only [hf] at h
    split at h
    · split at h
      · cases h
      · cases h
        rfl
    · cases h
      rfl

theorem target_of_interface? {c i : ContractId} {ref : Reference} (h : interface? d s c ref = some i) :
    target d s c ref = .predecessor i ∨ target d s c ref = .found i := by
  unfold interface? at h
  cases htarget : target d s c ref with
  | predecessor p =>
    rw [htarget] at h
    cases h
    exact .inl rfl
  | found j =>
    rw [htarget] at h
    cases h
    exact .inr rfl
  | missing =>
    rw [htarget] at h
    cases h

theorem target_of_interface?_eq_none {c : ContractId} {ref : Reference} (h : interface? d s c ref = none) :
    target d s c ref = .missing := by
  unfold interface? at h
  cases htarget : target d s c ref with
  | missing => rfl
  | predecessor p =>
    rw [htarget] at h
    cases h
  | found j =>
    rw [htarget] at h
    cases h

theorem interface?_lt (hs : WellFormed d.registry s) {c e : ContractId} {ref : Reference}
    (h : interface? d s c ref = some e) : e < s.contracts.size := by
  rcases target_of_interface? h with htarget | htarget
  · exact hs.supersedes_held c e (predecessor?_of_target htarget)
  · exact hs.registered _ e (find?_of_target htarget)

theorem Leads.lt (hs : WellFormed d.registry s) {c e : ContractId} (h : Leads d s c e) : e < s.contracts.size := by
  rcases h with h | ⟨ref, _, h⟩
  · exact hs.supersedes_held c e h
  · exact interface?_lt hs h

/-- A path from a grounded contract is no longer than there are contracts. -/
theorem Grounded.length_le (hs : WellFormed d.registry s) {c : ContractId} (hc : c < s.contracts.size)
    (h : Grounded d s c) {path : List ContractId} (hp : IsPath d s (c :: path)) :
    (c :: path).length ≤ s.contracts.size := by
  have hlt : ∀ e ∈ c :: path, e < s.contracts.size := by
    have htrans : (c :: path).Pairwise (TransGen (Depends d s)) :=
      List.isChain_iff_pairwise.mp (hp.imp fun _ _ => TransGen.single)
    intro e he
    rcases List.mem_cons.mp he with rfl | he
    · exact hc
    · obtain ⟨b, _, hb⟩ := TransGen.tail'_iff.mp ((List.pairwise_cons.mp htrans).1 e he)
      exact hb.leads.lt hs
  have hsub : (c :: path).Subperm (List.range s.contracts.size) :=
    List.subperm_of_subset (h.nodup hp) fun e he => List.mem_range.mpr (hlt e he)
  have := hsub.length_le
  rwa [List.length_range] at this

/-! ## 3. An example -/

theorem grounded_of_leadsTo {c : ContractId} (h : ∀ e ∈ leadsTo d s c, Grounded d s e) : Grounded d s c :=
  Acc.intro c fun e he => h e (mem_leadsTo.mpr he.leads)

namespace Sample

def audit : Contract := { info := { name := "audit" } }

def order : Contract :=
  { info := { name := "order" }, declared := [{ serviceName := "audit" }, { serviceName := "customer" }] }

def loop : Contract := { info := { name := "loop" }, declared := [{ serviceName := "loop" }] }

def customer : Contract := { info := { name := "customer" }, declared := [{ serviceName := "party" }] }

def party : Contract := { info := { name := "party" } }

/-- The parameters of the audit and of the party, in a store without contracts. -/
def params : Store := (({} : Store).pushParam { name := "id" }).pushParam { name := "name" }

-- The contracts that hold no parameter, and the audit.
def withoutParty : Store := (((params.build audit [0]).build order []).build loop []).build customer []

/-- An order inherits from the audit and from the customer, which inherits from the party; and there is a contract that
inherits from itself. -/
def store : Store := withoutParty.build party [1]

/-- Where the contracts of the example are found. -/
def directory : Directory where
  registry := { contracts := [("audit", 0), ("order", 1), ("loop", 2), ("customer", 3), ("party", 4)] }

theorem wellFormed : WellFormed directory.registry store := .of_lt (by decide) (by decide) (by decide)

theorem unshared : store.Unshared := Store.unshared_of_lt (by decide)

theorem unresolved (c : ContractId) : (store.contract c).resolved = false := by
  have hheld : ∀ c < 5, (store.contract c).resolved = false := by decide
  by_cases hc : c < 5
  · exact hheld c hc
  · have hsize : store.contracts.size ≤ c := Nat.le_of_not_lt hc
    rw [Store.contract_of_size_le hsize]
    rfl

theorem depends {c e : ContractId} (h : e ∈ leadsTo directory store c) : Depends directory store c e :=
  ⟨unresolved c, unresolved e, mem_leadsTo.mp h⟩

theorem grounded : Grounded directory store 1 := by
  have haudit : leadsTo directory store 0 = [] := by decide
  have horder : leadsTo directory store 1 = [0, 3] := by decide
  have hcustomer : leadsTo directory store 3 = [4] := by decide
  have hparty : leadsTo directory store 4 = [] := by decide
  have hend : ∀ c, leadsTo directory store c = [] → Grounded directory store c := fun c hc =>
    grounded_of_leadsTo fun e he => absurd (hc ▸ he) List.not_mem_nil
  have hthen : Grounded directory store 3 := by
    refine grounded_of_leadsTo fun e he => ?_
    rw [hcustomer, List.mem_singleton] at he
    rw [he]
    exact hend 4 hparty
  refine grounded_of_leadsTo fun e he => ?_
  rw [horder] at he
  rcases List.mem_cons.mp he with rfl | he
  · exact hend 0 haudit
  · rw [List.mem_singleton.mp he]
    exact hthen

theorem onCycle : OnCycle directory store 2 := .single (depends (by decide))

end Sample

end CallContract.Resolution
