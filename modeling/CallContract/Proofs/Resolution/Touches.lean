import CallContract.Proofs.Stateful
import CallContract.Proofs.WellFormed
import CallContract.Resolution.Machine

/-!
# Touches — which contracts and parameters an action of resolution can reach

Whatever the store and however parameters are shared in it, every action of resolution works on one contract.  It puts
new parameters into that contract and takes parameters out of it.  Parameters that are there already are written in one
case only: one that the contract holds is widened to both directions.
-/

namespace CallContract.Resolution

variable {c e : ContractId} {s t u : Store} {w : Work}

/-! ## 1. Widened parameters -/

/-- A parameter is as it was, or has come to go both ways and may have become optional. -/
def Widened (p q : Param) : Prop := q = p ∨ ∃ optional, q = { p with mode := .both, optional := p.optional || optional }

theorem Widened.trans {p q r : Param} (h : Widened p q) (h' : Widened q r) : Widened p r := by
  rcases h' with rfl | ⟨again, rfl⟩
  · exact h
  · rcases h with rfl | ⟨optional, rfl⟩
    · exact .inr ⟨again, rfl⟩
    · exact .inr ⟨optional || again, by simp [Bool.or_assoc]⟩

theorem widened_widen (existing inherited : Param) : Widened existing (widen existing inherited) := by
  unfold widen
  split
  · exact .inr ⟨inherited.optional, rfl⟩
  · exact .inl rfl

/-! ## 2. What an action on one contract changes -/

/-- The second store comes from the first one by actions on one contract. -/
structure Touches (c : ContractId) (s t : Store) : Prop where
  size_eq : t.contracts.size = s.contracts.size
  size_params_le : s.params.size ≤ t.params.size
  others : ∀ e, e ≠ c → t.contract e = s.contract e
  resolved : (s.contract c).resolved = true → (t.contract c).resolved = true
  /-- The contract does not come to hold a parameter that was there before. -/
  held : ∀ id ∈ (t.contract c).paramIds, id < s.params.size → id ∈ (s.contract c).paramIds
  params : ∀ id < s.params.size,
    t.param id = s.param id ∨ id ∈ (s.contract c).paramIds ∧ Widened (s.param id) (t.param id)

namespace Touches

theorem refl (c : ContractId) (s : Store) : Touches c s s :=
  ⟨rfl, Nat.le_refl _, fun _ _ => rfl, id, fun _ h _ => h, fun _ _ => .inl rfl⟩

theorem trans (h : Touches c s t) (h' : Touches c t u) : Touches c s u where
  size_eq := h'.size_eq.trans h.size_eq
  size_params_le := Nat.le_trans h.size_params_le h'.size_params_le
  others e he := (h'.others e he).trans (h.others e he)
  resolved hc := h'.resolved (h.resolved hc)
  held id hid hlt := h.held id (h'.held id hid (Nat.lt_of_lt_of_le hlt h.size_params_le)) hlt
  params id hlt := by
    rcases h'.params id (Nat.lt_of_lt_of_le hlt h.size_params_le) with hsame | ⟨hheld, hwidened⟩
    · rw [hsame]
      exact h.params id hlt
    · have hheld' := h.held id hheld hlt
      rcases h.params id hlt with hsame | ⟨-, hwidened'⟩
      · exact .inr ⟨hheld', hsame ▸ hwidened⟩
      · exact .inr ⟨hheld', hwidened'.trans hwidened⟩

theorem resolved_of (h : Touches c s t) (he : (s.contract e).resolved = true) : (t.contract e).resolved = true := by
  by_cases hec : e = c
  · subst hec
    exact h.resolved he
  · rw [h.others e hec]
    exact he

end Touches

/-! ## 3. Primitive actions -/

-- Replacing a contract by one that holds no parameters of others.
theorem touches_setContract {k : Contract} (hresolved : (s.contract c).resolved = true → k.resolved = true)
    (hids : ∀ id ∈ k.paramIds, id < s.params.size → id ∈ (s.contract c).paramIds) : Touches c s (s.setContract c k) := by
  refine ⟨Store.size_setContract s c k, Nat.le_refl _, fun e he => ?_, fun hc => ?_, fun id hid hlt => ?_,
    fun _ _ => .inl rfl⟩
  · exact Store.contract_setContract_of_ne s k (Ne.symm he)
  · rw [Store.contract_setContract]
    split
    · exact hresolved hc
    · exact hc
  · rw [Store.contract_setContract] at hid
    split at hid
    · exact hids id hid hlt
    · exact hid

theorem touches_change {f : Contract → Contract} (hresolved : ∀ k, k.resolved = true → (f k).resolved = true)
    (hids : ∀ k, (f k).paramIds ⊆ k.paramIds) : Touches c w.store (w.change c f).store :=
  touches_setContract (hresolved _) fun _ hid _ => hids _ hid

-- A record of the change is no change of the store.
theorem touches_noted {f : Contract → Contract} (message : String)
    (hresolved : ∀ k, k.resolved = true → (f k).resolved = true) (hids : ∀ k, (f k).paramIds ⊆ k.paramIds) :
    Touches c w.store ((w.change c f).note message).store :=
  touches_change hresolved hids

-- Putting a new parameter into the contract.
theorem touches_insert (p : Param) : Touches c s ((s.pushParam p).insert c s.params.size) := by
  have hsize : (s.pushParam p).params.size = s.params.size + 1 := Array.size_push _
  refine ⟨Store.size_setContract _ c _, ?_, fun e he => ?_, fun hc => ?_, fun id hid hlt => ?_, fun id hlt => .inl ?_⟩
  · show s.params.size ≤ (s.pushParam p).params.size
    omega
  · exact Store.contract_setContract_of_ne _ _ (Ne.symm he)
  · unfold Store.insert
    rw [Store.contract_setContract]
    split
    · exact hc
    · exact hc
  · unfold Store.insert at hid
    rw [Store.contract_setContract] at hid
    split at hid
    · rcases Entries.mem_values_put hid with rfl | hid
      · exact absurd hlt (Nat.lt_irrefl _)
      · exact hid
    · exact hid
  · show (s.pushParam p).param id = s.param id
    rw [Store.param_pushParam, if_neg (Nat.ne_of_lt hlt)]

-- Widening a parameter that the contract holds.
theorem touches_setParam {key : String} {id : ParamId} (h : Entries.get? key (s.contract c).params = some id)
    (p : Param) : Touches c s (s.setParam id (widen (s.param id) p)) := by
  have hsize : (s.params.setIfInBounds id (widen (s.param id) p)).size = s.params.size := Array.size_setIfInBounds
  refine ⟨rfl, Nat.le_of_eq hsize.symm, fun _ _ => rfl, fun hc => hc, fun _ h _ => h, fun j hlt => ?_⟩
  by_cases hj : id = j
  · subst hj
    rw [Store.param_setParam_self s _ hlt]
    exact .inr ⟨Entries.mem_values_of_get? h, widened_widen _ _⟩
  · exact .inl (Store.param_setParam_of_ne s _ hj)

/-! ## 4. The actions of resolution -/

/-- From a store to which actions on the contract have led, the action leads on to one, also when it is refused. -/
abbrev Confines {α : Type} (c : ContractId) (a : Action α) : Prop := ∀ s, Keeps (fun w => Touches c s w.store) a

theorem touches_of_ok {α : Type} {a : Action α} {x : α} {w' : Work} (ha : Confines c a) (h : a w = .ok x w') :
    Touches c w.store w'.store := (ha w.store).of_ok (Touches.refl c _) h

theorem confines_modify {f : Work → Work} (h : ∀ w, Touches c w.store (f w).store) : Confines c (modify f) :=
  fun _ => keeps_modify fun w hw => hw.trans (h w)

theorem confines_takeParam (c : ContractId) (ref : Reference) (id : ParamId) : Confines c (takeParam c ref id) := by
  intro s
  apply keeps_get_bind
  intro w hw
  dsimp only
  cases h : Entries.get? (w.store.param id).name (w.store.contract c).params with
  | some existing => exact hw.trans (touches_setParam h _)
  | none =>
    cases inheritedCopy ref (w.store.param id) with
    | error fault => exact hw
    | ok p => exact hw.trans (touches_insert p)

theorem confines_takeParams (c interface : ContractId) (ref : Reference) : Confines c (takeParams c interface ref) := by
  intro s
  apply keeps_get_bind
  intro w hw
  exact keeps_forM (fun id => confines_takeParam c ref id s) (w.store.contract interface).paramIds w hw

theorem confines_merge (c interface : ContractId) (ref : Reference) : Confines c (merge c interface ref) := by
  intro s
  apply keeps_bind (confines_takeParams c interface ref s)
  intro _
  refine confines_modify (fun w => ?_) s
  unfold takeProperties
  split
  · exact Touches.refl c _
  · apply touches_noted <;> simp [Contract.paramIds]

theorem confines_applyPatch (c : ContractId) (patch : Patch) : Confines c (applyPatch c patch) := by
  intro s
  apply keeps_get_bind
  intro w hw
  dsimp only
  cases Entries.get? patch.name (w.store.contract c).params with
  | none => exact hw
  | some existing =>
    let erased := w.change c fun k => { k with params := Entries.erase patch.name k.params }
    have herased : Touches c w.store erased.store := by
      apply touches_change
      · simp
      · exact fun k => (Entries.values_erase_sublist patch.name k.params).subset
    replace herased := hw.trans herased
    simp only [set, MonadStateOf.set]
    cases (erased.store.param existing).clone with
    | error fault => exact herased
    | ok copy => exact herased.trans (touches_insert (patch.apply copy))

theorem touches_dropPredecessor (c : ContractId) (w : Work) : Touches c w.store (dropPredecessor c w).store := by
  unfold dropPredecessor
  apply touches_change <;> simp [Contract.paramIds]

theorem confines_applyPatches (c : ContractId) : Confines c (applyPatches c) := by
  intro s
  apply keeps_get_bind
  intro w hw
  exact keeps_forM (fun patch => confines_applyPatch c patch s) (w.store.contract c).patches w hw

theorem confines_complete (c : ContractId) : Confines c (complete c) := by
  intro s
  apply keeps_bind (confines_modify (touches_dropPredecessor c) s)
  intro _
  apply keeps_bind (confines_applyPatches c s)
  intro _
  refine confines_modify (fun w => ?_) s
  unfold markResolved
  apply touches_noted <;> simp [Contract.paramIds]

/-- What a step does to the contract of its frame touches no other one. -/
theorem confines_effect (d : Directory) (t : Store) (f : Frame) : Confines f.contract (effect d t f) := by
  intro s
  unfold effect
  split
  · exact keeps_pure ()
  · refine confines_modify (fun w => ?_) s
    unfold expandGroup
    dsimp only
    split
    · apply touches_noted <;> simp [Contract.paramIds]
    · exact Touches.refl _ _
  · exact confines_complete f.contract s
  · split
    · exact confines_modify (fun w => Touches.refl _ _) s
    · exact keeps_pure ()
  · exact confines_merge f.contract _ _ s

theorem touches_of_effect {d : Directory} {f : Frame} {w' : Work} (h : effect d w.store f w = .ok () w') :
    Touches f.contract w.store w'.store := touches_of_ok (confines_effect d w.store f) h

-- Completion marks the contract as resolved.
theorem resolved_of_complete {w' : Work} (h : complete c w = .ok () w') (hc : c < w.store.contracts.size) :
    (w'.store.contract c).resolved = true := by
  rw [complete, modify_bind] at h
  cases hpatches : applyPatches c (dropPredecessor c w) with
  | error abort v =>
    rw [bind_of_error hpatches] at h
    cases h
  | ok u v =>
    rw [bind_of_ok hpatches] at h
    cases h
    have htouches := (confines_applyPatches c w.store).of_ok (touches_dropPredecessor c w) hpatches
    have hv : c < v.store.contracts.size := htouches.size_eq ▸ hc
    show ((v.store.setContract c _).contract c).resolved = true
    rw [Store.contract_setContract_self _ _ hv]

end CallContract.Resolution
