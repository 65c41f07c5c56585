import CallContract.Proofs.Resolution.Keeping
import CallContract.Proofs.Resolution.Recursion

/-!
# Storage — parameters in the order in which their names arrived

A contract stores its parameters under their names.  Building a contract, putting parameters in, taking them out and
resolving all keep it so, as long as no parameter is renamed where it is stored.  So a name leads to the one parameter
that has it, a parameter whose name is there takes the place of the old one, a new name goes to the end, and taking one
out leaves the others in order.
-/

namespace CallContract

open Relation Resolution

/-! ## 1. Tidy stores -/

/-- Contracts hold parameters that there are, each of them under its name. -/
structure Store.Tidy (s : Store) : Prop where
  held : s.AllHeld
  byName : s.AllByName

namespace Store.Tidy

variable {s : Store} {c : ContractId} {id : ParamId} {ids : List ParamId} {k : Contract} {p : Param}

theorem empty : ({} : Store).Tidy where
  held := allHeld_empty
  byName c := by
    rw [contract_of_size_le (Nat.zero_le c)]
    exact .nil

theorem pushParam (h : s.Tidy) (p : Param) : (s.pushParam p).Tidy where
  held := allHeld_pushParam h.held p
  byName c := by
    refine (h.byName c).congr fun id hid => ?_
    rw [param_pushParam, if_neg (Nat.ne_of_lt (h.held c id hid))]

theorem setParam (h : s.Tidy) (hname : p.name = (s.param id).name) : (s.setParam id p).Tidy where
  held := allHeld_setParam h.held id p
  byName c := by
    refine (h.byName c).congr fun j _ => ?_
    rw [param_setParam]
    split
    · next hsame => rw [hname, hsame.1]
    · rfl

theorem setContract (h : s.Tidy) (hids : ∀ id ∈ k.paramIds, id < s.params.size) (hk : s.HoldsByName k) :
    (s.setContract c k).Tidy where
  held := allHeld_setContract h.held hids
  byName e := by
    rw [contract_setContract]
    split
    · exact hk
    · exact h.byName e

theorem insert (h : s.Tidy) (c : ContractId) (hid : id < s.params.size) : (s.insert c id).Tidy where
  held := allHeld_insert h.held hid
  byName e := by
    rw [Store.insert, contract_setContract]
    split
    · exact (h.byName c).put rfl
    · exact h.byName e

theorem build (h : s.Tidy) (k : Contract) (hids : ∀ id ∈ ids, id < s.params.size) : (s.build k ids).Tidy where
  held := allHeld_build h.held k hids
  byName := h.byName.build k ids

-- What is changed about a contract that is not its parameters.
theorem describe (h : s.Tidy) (c : ContractId) (hk : k.params = (s.contract c).params) : (s.setContract c k).Tidy := by
  apply h.setContract
  · intro id hid
    rw [Contract.paramIds, hk] at hid
    exact h.held c id hid
  · rw [HoldsByName, hk]
    exact h.byName c

/-- The actions of resolution keep a store tidy. -/
theorem keptByActions : KeptByActions Store.Tidy where
  widen h _ p := h.setParam (Content.name_widen _ p)
  insert h c p := (h.pushParam p).insert c (Array.size_push _ ▸ Nat.lt_succ_self _)
  remove h c key := h.setContract (fun id hid => h.held c id ((Entries.values_erase_sublist key _).subset hid))
    ((h.byName c).erase key)
  describe h c _ _ := h.describe c rfl
  mark h c := h.describe c rfl

end Store.Tidy

/-! ## 2. Work on a store -/

/-- What may be done to a store, short of renaming a parameter in it. -/
inductive StorageStep : Store → Store → Prop
  | make {s : Store} (p : Param) : StorageStep s (s.pushParam p)
  | build {s : Store} {ids : List ParamId} (k : Contract) (hids : ∀ id ∈ ids, id < s.params.size) :
      StorageStep s (s.build k ids)
  | add {s : Store} {id : ParamId} (c : ContractId) (hid : id < s.params.size) : StorageStep s (s.insert c id)
  | addClone {s : Store} {id : ParamId} {copy : Param} (c : ContractId) (hcopy : (s.param id).clone = .ok copy) :
      StorageStep s ((s.pushParam copy).insert c s.params.size)
  | remove {s : Store} (c : ContractId) (key : String) :
      StorageStep s (s.setContract c (withoutParam key (s.contract c)))
  /-- A resolution, whether it goes through or is refused. -/
  | resolve (d : Directory) (limit : Int) (c : ContractId) (w : Work) :
      StorageStep w.store (workOf (resolve d limit c w)).store
  /-- A parameter is changed where it is stored. -/
  | change {s : Store} {id : ParamId} {p : Param} (hname : p.name = (s.param id).name) : StorageStep s (s.setParam id p)
  /-- Something else about a contract is changed. -/
  | describe {s : Store} {k : Contract} (c : ContractId) (hk : k.params = (s.contract c).params) :
      StorageStep s (s.setContract c k)

theorem Store.Tidy.step {s t : Store} (h : s.Tidy) (hstep : StorageStep s t) : t.Tidy := by
  cases hstep with
  | make p => exact h.pushParam p
  | build k hids => exact h.build k hids
  | add c hid => exact h.insert c hid
  | addClone c hcopy => exact Store.Tidy.keptByActions.insert h c _
  | remove c key => exact Store.Tidy.keptByActions.remove h c key
  | resolve d limit c w => exact Store.Tidy.keptByActions.resolve d limit c h
  | change hname => exact h.setParam hname
  | describe c hk => exact h.describe c hk

theorem tidy_of_steps {s : Store} (h : ReflTransGen StorageStep {} s) : s.Tidy := by
  induction h with
  | refl => exact .empty
  | tail _ hstep ih => exact ih.step hstep

/-! ## 3. What a contract stores -/

/-- How a contract stores its parameters. -/
structure StoresByName (s : Store) (c : ContractId) : Prop where
  distinct : ((s.paramsOf (s.contract c)).map (·.name)).Nodup
  found_iff : ∀ n id, Entries.get? n (s.contract c).params = some id ↔
    id ∈ (s.contract c).paramIds ∧ (s.param id).name = n
  lacking_iff : ∀ n, Entries.get? n (s.contract c).params = none ↔ ∀ p ∈ s.paramsOf (s.contract c), p.name ≠ n
  replaces : ∀ id old before after, (s.contract c).paramIds = before ++ old :: after →
    (s.param old).name = (s.param id).name → ((s.insert c id).contract c).paramIds = before ++ id :: after
  appends : ∀ id, (∀ p ∈ s.paramsOf (s.contract c), p.name ≠ (s.param id).name) →
    ((s.insert c id).contract c).paramIds = (s.contract c).paramIds ++ [id]
  removes : ∀ n, ((s.setContract c (withoutParam n (s.contract c))).contract c).paramIds
    = (s.contract c).paramIds.filter fun id => (s.param id).name ≠ n

/-- Whatever contracts have been built, from whatever parameters, and whatever has been done to them since, each stores
its parameters under their names and in the order of these. -/
theorem parameters_stay_under_names (s : Store) (c : ContractId) (h : ReflTransGen StorageStep {} s)
    (hc : c < s.contracts.size) : StoresByName s c := by
  have hbyName : Entries.NamedBy (fun id => (s.param id).name) (s.contract c).params := (tidy_of_steps h).byName c
  have hinsert : ∀ id, (s.insert c id).contract c = s.holding (s.contract c) id := fun id =>
    Store.contract_setContract_self s _ hc
  refine ⟨Store.HoldsByName.nodup hbyName, fun n id => hbyName.get?_eq_some_iff, fun n => ?_,
    fun id old before after hids hname => ?_, fun id hnew => ?_, fun n => ?_⟩
  · rw [hbyName.get?_eq_none_iff, Store.paramsOf, List.forall_mem_map]
    rfl
  · rw [hinsert]
    exact hbyName.values_put_of_name hids hname id
  · rw [hinsert]
    exact hbyName.values_put_of_new (fun j hj => hnew _ (List.mem_map_of_mem hj)) id
  · rw [Store.contract_setContract_self s _ hc]
    exact hbyName.values_erase n

/-! ## 4. An example -/

namespace Shelf

def params : Store :=
  ((({} : Store).pushParam { name := "id" }).pushParam { name := "note" }).pushParam { name := "id", mode := .output }

def loan : Contract := { info := { name := "loan" }, declared := [{ serviceName := "loan" }] }

/-- A contract that is built from two parameters of one name and declares itself. -/
def store : Store := params.build loan [0, 1, 2]

def directory : Directory where
  registry := { contracts := [("loan", 0)] }

theorem steps : ReflTransGen StorageStep {} store :=
  (((ReflTransGen.refl.tail (.make _)).tail (.make _)).tail (.make _)).tail (.build loan (by decide))

theorem refused : ∃ abort v, resolve directory 1 0 { store } = .error abort v ∧ 0 < v.store.contracts.size ∧
    (v.store.contract 0).paramIds = [2, 1] ∧
    [0, 1, 2].map (fun id => (v.store.param id).name) = ["id", "note", "id"] := by
  rw [resolve_eq_resolveWithin rfl]
  exact ⟨_, _, rfl, by decide, by decide, by decide⟩

end Shelf

-- After a resolution that is refused, the first identifier goes back to the place that the second one has taken.
theorem parameters_stay_under_names_sample :
    ∃ abort v, resolve Shelf.directory 1 0 { store := Shelf.store } = .error abort v ∧
      ((v.store.insert 0 0).contract 0).paramIds = [0, 1] ∧
      ((v.store.setContract 0 (withoutParam "id" (v.store.contract 0))).contract 0).paramIds = [1] := by
  obtain ⟨abort, v, hv, hc, hids, hnames⟩ := Shelf.refused
  obtain ⟨hfirst, hnote, hsecond⟩ : (v.store.param 0).name = "id" ∧ (v.store.param 1).name = "note" ∧
      (v.store.param 2).name = "id" := by simpa using hnames
  have hsteps : ReflTransGen StorageStep {} v.store := by
    have hlast := Shelf.steps.tail (.resolve Shelf.directory 1 0 { store := Shelf.store })
    rw [hv] at hlast
    exact hlast
  have hstores := parameters_stay_under_names v.store 0 hsteps hc
  refine ⟨abort, v, hv, hstores.replaces 0 2 [] [1] hids (hsecond.trans hfirst.symm), ?_⟩
  rw [hstores.removes, hids]
  simp [hnote, hsecond]

end CallContract
