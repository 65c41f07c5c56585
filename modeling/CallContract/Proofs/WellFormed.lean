import CallContract.Registry
import CallContract.Proofs.Entries
import CallContract.Resolution.Inheritance

/-!
# WellFormed — stores whose identities lead somewhere and whose parameters have passed their check

Building a parameter checks it and building a patch checks its fields, so both are settled: a copy of a settled
parameter is that parameter again.  A store is well formed when all of its parameters and patches are settled and
every identity in it, or in the registry beside it, is one that has been given out.  Building and registering
contracts keeps it so.
-/

namespace CallContract

open Resolution

/-! ## 1. Settled parameters and patches -/

/-- A parameter that has passed its own check: its mode is a direction, and it gathers keys in at most one way. -/
structure Param.Settled (p : Param) : Prop where
  plain : ∃ d, p.mode = .plain d
  grouping : ¬(Param.isGiven p.mapPrefix? = true ∧ Param.isGiven p.listSuffix? = true)

instance (m : Mode) : Decidable (∃ d, m = .plain d) :=
  match m with
  | .plain d => .isTrue ⟨d, rfl⟩
  | .system _ => .isFalse fun ⟨_, h⟩ => by cases h
  | .unlisted _ => .isFalse fun ⟨_, h⟩ => by cases h

instance (p : Param) : Decidable p.Settled :=
  decidable_of_iff ((∃ d, p.mode = .plain d) ∧ ¬(Param.isGiven p.mapPrefix? = true ∧ Param.isGiven p.listSuffix? = true))
    ⟨fun h => ⟨h.1, h.2⟩, fun h => ⟨h.plain, h.grouping⟩⟩

/-- What passes the check of building, and that it comes out in its final form. -/
theorem Param.of_build {p q : Param} {policyName? : Option String} (h : p.build policyName? = .ok q) :
    p.mode.isListed = true ∧ ¬(isGiven p.mapPrefix? = true ∧ isGiven p.listSuffix? = true) ∧
      ∃ markup, q = p.settled markup := by
  rw [Param.build] at h
  by_cases hlisted : (!p.mode.isListed) = true
  · rw [if_pos hlisted] at h
    cases h
  · rw [if_neg hlisted] at h
    cases hpolicy : p.policy policyName? with
    | error fault =>
      rw [hpolicy] at h
      cases h
    | ok markup =>
      rw [hpolicy] at h
      by_cases hboth : (isGiven p.mapPrefix? && isGiven p.listSuffix?) = true
      · simp only [if_pos hboth] at h
        cases h
      · simp only [if_neg hboth] at h
        cases h
        exact ⟨by simpa using hlisted, by rwa [Bool.and_eq_true] at hboth, markup, rfl⟩

theorem Mode.base_of_isListed {m : Mode} (h : m.isListed = true) : ∃ d, m.base = .plain d := by
  cases m with
  | plain d => exact ⟨d, rfl⟩
  | system d => exact ⟨d, rfl⟩
  | unlisted name => cases h

/-- What building gives is settled. -/
theorem Param.settled_of_build {p q : Param} {policyName? : Option String} (h : p.build policyName? = .ok q) :
    q.Settled := by
  obtain ⟨hlisted, hgrouping, markup, rfl⟩ := Param.of_build h
  exact ⟨Mode.base_of_isListed hlisted, hgrouping⟩

/-- A settled parameter is copied as it is. -/
theorem Param.clone_of_settled {p : Param} (h : p.Settled) : p.clone = .ok p := by
  obtain ⟨d, hd⟩ := h.plain
  have hg : (isGiven p.mapPrefix? && isGiven p.listSuffix?) = false := by
    rw [← Bool.not_eq_true, Bool.and_eq_true]
    exact h.grouping
  have hs : p.settled p.markup = p := by
    simp only [settled, hd, Mode.base, ne_eq, not_true_eq_false, decide_false, Bool.or_false]
    rw [← hd]
  rw [clone, build]
  simp only [hd, Mode.isListed, Bool.not_true, Bool.false_eq_true, if_false, policy, hg, hs]

/-- A patch that has passed its own check: the mode that it sets is a direction. -/
def Patch.Settled (patch : Patch) : Prop := ∀ m, patch.mode? = some m → ∃ d, m = .plain d

instance (patch : Patch) : Decidable patch.Settled :=
  inferInstanceAs (Decidable (∀ m ∈ patch.mode?, ∃ d, m = .plain d))

-- What building a patch gives is settled.
theorem Patch.settled_of_ofFields {fields : Fields} {default? : Option Default} {patch : Patch}
    (h : Patch.ofFields fields default? = .ok patch) : patch.Settled := by
  intro m hm
  simp only [ofFields] at h
  split at h
  · next hmode _ _ _ _ _ _ _ =>
    cases h
    simp only at hm
    subst hm
    unfold Fields.mode? at hmode
    split at hmode
    · cases hmode
    · cases hmode
    · split at hmode
      · next hl =>
        cases hmode
        revert hl
        cases Mode.ofName _ with
        | plain d => exact fun _ => ⟨d, rfl⟩
        | system d => exact fun _ => ⟨d, rfl⟩
        | unlisted name => exact fun hl => absurd hl (by simp [Mode.isListed])
      · cases hmode
  · cases h

theorem Patch.settled_apply {patch : Patch} {p : Param} (hq : patch.Settled) (hp : p.Settled) :
    (patch.apply p).Settled := by
  refine ⟨?_, hp.grouping⟩
  change ∃ d, patch.mode?.getD p.mode = .plain d
  cases hm : patch.mode? with
  | none => exact hp.plain
  | some m => exact hq m hm

/-! ## 2. Reading a changed store -/

namespace Store

theorem contract_of_size_le {s : Store} {c : ContractId} (h : s.contracts.size ≤ c) : s.contract c = default := by
  rw [contract, Array.getElem?_eq_none h, Option.getD_none]

-- A contract that has anything has been made.
theorem lt_of_contract_ne {s : Store} {c : ContractId} (h : s.contract c ≠ default) : c < s.contracts.size :=
  Nat.lt_of_not_le fun hle => h (contract_of_size_le hle)

theorem lt_of_mem_paramIds {s : Store} {c : ContractId} {id : ParamId} (h : id ∈ (s.contract c).paramIds) :
    c < s.contracts.size := by
  refine lt_of_contract_ne fun heq => ?_
  rw [heq] at h
  cases h

theorem lt_of_isGroup {s : Store} {c : ContractId} (h : isGroup (s.contract c) = true) : c < s.contracts.size := by
  refine lt_of_contract_ne fun heq => ?_
  rw [heq] at h
  cases h

theorem contract_setContract (s : Store) (c e : ContractId) (k : Contract) :
    (s.setContract c k).contract e = if c = e ∧ c < s.contracts.size then k else s.contract e := by
  by_cases he : c = e
  · subst he
    by_cases hc : c < s.contracts.size
    · rw [if_pos ⟨rfl, hc⟩, contract_setContract_self s k hc]
    · rw [if_neg fun h => hc h.2]
      simp [contract, setContract, Array.setIfInBounds, hc]
  · rw [if_neg fun h => he h.1, contract_setContract_of_ne s k he]

theorem contract_pushContract (s : Store) (k : Contract) (e : ContractId) :
    (s.pushContract k).contract e = if e = s.contracts.size then k else s.contract e := by
  rw [contract, pushContract, Array.getElem?_push]
  split <;> rfl

theorem param_pushParam (s : Store) (p : Param) (id : ParamId) :
    (s.pushParam p).param id = if id = s.params.size then p else s.param id := by
  rw [param, pushParam, Array.getElem?_push]
  split <;> rfl

theorem param_setParam (s : Store) (id j : ParamId) (p : Param) :
    (s.setParam id p).param j = if id = j ∧ id < s.params.size then p else s.param j := by
  by_cases hj : id = j
  · subst hj
    by_cases hi : id < s.params.size
    · rw [if_pos ⟨rfl, hi⟩, param_setParam_self s p hi]
    · rw [if_neg fun h => hi h.2]
      simp [param, setParam, Array.setIfInBounds, hi]
  · rw [if_neg fun h => hj h.1, param_setParam_of_ne s p hj]

/-- The number of contracts does not change when one is replaced. -/
@[simp] theorem size_setContract (s : Store) (c : ContractId) (k : Contract) :
    (s.setContract c k).contracts.size = s.contracts.size := Array.size_setIfInBounds

-- Putting parameters into a contract one after the other changes nothing else about it.
theorem foldl_holding (s : Store) (k : Contract) (ids : List ParamId) :
    ids.foldl s.holding k = { k with params := (ids.foldl s.holding k).params } := by
  induction ids generalizing k with
  | nil => rfl
  | cons id rest ih =>
    rw [List.foldl_cons, ih]
    rfl

theorem mem_paramIds_foldl_holding {s : Store} {k : Contract} {ids : List ParamId} {id : ParamId}
    (h : id ∈ (ids.foldl s.holding k).paramIds) : id ∈ k.paramIds ∨ id ∈ ids := by
  induction ids generalizing k with
  | nil => exact Or.inl h
  | cons first rest ih =>
    rcases ih h with hk | hr
    · rcases Entries.mem_values_put hk with rfl | hk
      · exact Or.inr List.mem_cons_self
      · exact Or.inl hk
    · exact Or.inr (List.mem_cons_of_mem first hr)

theorem nodup_paramIds_foldl_holding {s : Store} {k : Contract} {ids : List ParamId} (hk : k.paramIds.Nodup)
    (hids : ids.Nodup) (hnew : ∀ id ∈ ids, id ∉ k.paramIds) : (ids.foldl s.holding k).paramIds.Nodup := by
  induction ids generalizing k with
  | nil => exact hk
  | cons first rest ih =>
    obtain ⟨hfirst, hrest⟩ := List.nodup_cons.mp hids
    refine ih (Entries.nodup_values_put hk (hnew first List.mem_cons_self)) hrest fun id hid hput => ?_
    rcases Entries.mem_values_put hput with rfl | hput
    · exact hfirst hid
    · exact hnew id (List.mem_cons_of_mem first hid) hput

/-- No parameter stands in two places: neither in two contracts nor twice in one. -/
structure Unshared (s : Store) : Prop where
  nodup : ∀ c, (s.contract c).paramIds.Nodup
  disjoint : ∀ c e id, id ∈ (s.contract c).paramIds → id ∈ (s.contract e).paramIds → c = e

-- It is enough to look at the contracts that have been made.
theorem unshared_of_lt {s : Store} (h : ∀ c < s.contracts.size, ∀ e < s.contracts.size,
    (s.contract c).paramIds.Nodup ∧ ∀ id ∈ (s.contract c).paramIds, id ∈ (s.contract e).paramIds → c = e) :
    s.Unshared := by
  refine ⟨fun c => ?_, fun c e id hc he => (h c (lt_of_mem_paramIds hc) e (lt_of_mem_paramIds he)).2 id hc he⟩
  by_cases hc : c < s.contracts.size
  · exact (h c hc c hc).1
  · rw [contract_of_size_le (Nat.le_of_not_lt hc)]
    exact List.nodup_nil

/-- Building a contract from parameters that no contract holds shares none. -/
theorem Unshared.build {s : Store} (h : s.Unshared) (k : Contract) {ids : List ParamId} (hids : ids.Nodup)
    (hnew : ∀ id ∈ ids, ∀ c, id ∉ (s.contract c).paramIds) : (s.build k ids).Unshared := by
  have hids' : ∀ k' : Contract, k'.params = [] → k'.paramIds = [] := fun k' hk => by rw [Contract.paramIds, hk]; rfl
  have hbuilt : ∀ k' : Contract, k'.params = [] → ∀ id ∈ (ids.foldl s.holding k').paramIds, id ∈ ids := by
    intro k' hk id hid
    rcases mem_paramIds_foldl_holding hid with hid | hid
    · rw [hids' k' hk] at hid
      cases hid
    · exact hid
  have hnodup : ∀ k' : Contract, k'.params = [] → (ids.foldl s.holding k').paramIds.Nodup := by
    intro k' hk
    refine nodup_paramIds_foldl_holding ?_ hids fun id _ hid => ?_
    · rw [hids' k' hk]
      exact List.nodup_nil
    · rw [hids' k' hk] at hid
      cases hid
  refine ⟨fun c => ?_, fun c e id hc he => ?_⟩
  · rw [Store.build, contract_pushContract]
    split
    · exact hnodup _ rfl
    · exact h.nodup c
  · rw [Store.build, contract_pushContract] at hc he
    split at hc
    · split at he
      · next hcn hen => rw [hcn, hen]
      · exact absurd he (hnew id (hbuilt _ rfl id hc) e)
    · split at he
      · exact absurd hc (hnew id (hbuilt _ rfl id he) c)
      · exact h.disjoint c e id hc he

end Store

/-! ## 3. Well-formed stores -/

/-- The registry leads to contracts of the store, contracts lead to parameters and contracts of the store, and all
that is inherited or applied on the way has passed its own check. -/
structure WellFormed (r : Registry) (s : Store) : Prop where
  params_settled : ∀ id, (s.param id).Settled
  patches_settled : ∀ c, ∀ patch ∈ (s.contract c).patches, patch.Settled
  params_held : ∀ c, ∀ id ∈ (s.contract c).paramIds, id < s.params.size
  supersedes_held : ∀ c p, (s.contract c).supersedes? = some p → p < s.contracts.size
  registered : ∀ name c, r.find? name = some c → c < s.contracts.size

namespace WellFormed

variable {r : Registry} {s : Store}

theorem empty : WellFormed {} {} where
  params_settled _ := ⟨⟨.input, rfl⟩, by rintro ⟨h, -⟩; cases h⟩
  patches_settled _ _ h := by simp [Store.contract, default] at h
  params_held _ _ h := by simp [Store.contract, default, Contract.paramIds, Entries.values] at h
  supersedes_held _ _ h := by simp [Store.contract, default] at h
  registered _ _ h := by simp [Registry.find?, Entries.get?] at h

-- It is enough to look at the parameters and contracts that have been made and at those that are registered.
theorem of_lt (hparams : ∀ id < s.params.size, (s.param id).Settled)
    (hcontracts : ∀ c < s.contracts.size, (∀ patch ∈ (s.contract c).patches, patch.Settled) ∧
      (∀ id ∈ (s.contract c).paramIds, id < s.params.size) ∧ ∀ p ∈ (s.contract c).supersedes?, p < s.contracts.size)
    (hregistered : ∀ c ∈ Entries.values r.contracts, c < s.contracts.size) : WellFormed r s := by
  have hcontract : ∀ c, (∀ patch ∈ (s.contract c).patches, patch.Settled) ∧
      (∀ id ∈ (s.contract c).paramIds, id < s.params.size) ∧ ∀ p ∈ (s.contract c).supersedes?, p < s.contracts.size := by
    intro c
    by_cases hc : c < s.contracts.size
    · exact hcontracts c hc
    · rw [Store.contract_of_size_le (Nat.le_of_not_lt hc)]
      exact ⟨fun _ h => absurd h List.not_mem_nil, fun _ h => absurd h List.not_mem_nil,
        fun p h => absurd h (Option.not_mem_none p)⟩
  refine ⟨fun id => ?_, fun c => (hcontract c).1, fun c => (hcontract c).2.1, fun c => (hcontract c).2.2, fun _ c hc => ?_⟩
  · by_cases hid : id < s.params.size
    · exact hparams id hid
    · rw [Store.param, Array.getElem?_eq_none (Nat.le_of_not_lt hid)]
      exact empty.params_settled 0
  · exact hregistered c (Entries.mem_values_of_get? hc)

-- Making a parameter that has passed its check.
theorem pushParam (h : WellFormed r s) {p : Param} (hp : p.Settled) : WellFormed r (s.pushParam p) where
  params_settled id := by
    rw [Store.param_pushParam]
    split
    · exact hp
    · exact h.params_settled id
  patches_settled := h.patches_settled
  params_held c id hid := by
    change id < (s.params.push p).size
    rw [Array.size_push]
    exact Nat.lt_succ_of_lt (h.params_held c id hid)
  supersedes_held := h.supersedes_held
  registered := h.registered

-- Changing a parameter to one that has passed its check.
theorem setParam (h : WellFormed r s) {p : Param} (hp : p.Settled) (id : ParamId) :
    WellFormed r (s.setParam id p) where
  params_settled j := by
    rw [Store.param_setParam]
    split
    · exact hp
    · exact h.params_settled j
  patches_settled := h.patches_settled
  params_held c j hj := by
    change j < (s.params.setIfInBounds id p).size
    rw [Array.size_setIfInBounds]
    exact h.params_held c j hj
  supersedes_held := h.supersedes_held
  registered := h.registered

-- Changing a contract to one that leads to what is there.
theorem setContract (h : WellFormed r s) (c : ContractId) {k : Contract}
    (hpatches : ∀ patch ∈ k.patches, patch.Settled) (hparams : ∀ id ∈ k.paramIds, id < s.params.size)
    (hsupersedes : ∀ p, k.supersedes? = some p → p < s.contracts.size) : WellFormed r (s.setContract c k) where
  params_settled := h.params_settled
  patches_settled e := by
    rw [Store.contract_setContract]
    split
    · exact hpatches
    · exact h.patches_settled e
  params_held e := by
    rw [Store.contract_setContract]
    split
    · exact hparams
    · exact h.params_held e
  supersedes_held e := by
    rw [Store.contract_setContract, Store.size_setContract]
    split
    · exact hsupersedes
    · exact h.supersedes_held e
  registered name e he := by
    rw [Store.size_setContract]
    exact h.registered name e he

-- Putting a parameter of the store into a contract.
theorem insert (h : WellFormed r s) (c : ContractId) {id : ParamId} (hid : id < s.params.size) :
    WellFormed r (s.insert c id) := by
  refine h.setContract c (h.patches_settled c) (fun j hj => ?_) (h.supersedes_held c)
  rcases Entries.mem_values_put hj with rfl | hj
  · exact hid
  · exact h.params_held c j hj

-- Making a contract that leads to what is there.
theorem pushContract (h : WellFormed r s) {k : Contract} (hpatches : ∀ patch ∈ k.patches, patch.Settled)
    (hparams : ∀ id ∈ k.paramIds, id < s.params.size)
    (hsupersedes : ∀ p, k.supersedes? = some p → p < s.contracts.size) : WellFormed r (s.pushContract k) := by
  have hsize : (s.pushContract k).contracts.size = s.contracts.size + 1 := Array.size_push _
  refine ⟨h.params_settled, fun e => ?_, fun e => ?_, fun e p => ?_, fun name e he => ?_⟩
  · rw [Store.contract_pushContract]
    split
    · exact hpatches
    · exact h.patches_settled e
  · rw [Store.contract_pushContract]
    split
    · exact hparams
    · exact h.params_held e
  · rw [Store.contract_pushContract, hsize]
    split
    · exact fun hp => Nat.lt_succ_of_lt (hsupersedes p hp)
    · exact fun hp => Nat.lt_succ_of_lt (h.supersedes_held e p hp)
  · rw [hsize]
    exact Nat.lt_succ_of_lt (h.registered name e he)

/-- Building a contract from patches that have passed their check and parameters of the store. -/
theorem build (h : WellFormed r s) {k : Contract} {ids : List ParamId} (hpatches : ∀ patch ∈ k.patches, patch.Settled)
    (hids : ∀ id ∈ ids, id < s.params.size) (hsupersedes : ∀ p, k.supersedes? = some p → p < s.contracts.size) :
    WellFormed r (s.build k ids) := by
  refine h.pushContract ?_ (fun id hid => ?_) ?_
  · rw [Store.foldl_holding]
    exact hpatches
  · rcases Store.mem_paramIds_foldl_holding hid with hid | hid
    · cases hid
    · exact hids id hid
  · rw [Store.foldl_holding]
    exact hsupersedes

/-- Registering a contract of the store, which links it to the one registered before. -/
theorem register (h : WellFormed r s) {c : ContractId} (hc : c < s.contracts.size) {r' : Registry} {s' : Store}
    {journal : Journal} (hr : r.register s c = .ok (r', s', journal)) : WellFormed r' s' := by
  have hfind : ∀ t : Store, t.contracts.size = s.contracts.size → ∀ name e,
      ({ r with contracts := Entries.put (s.contract c).name c r.contracts } : Registry).find? name = some e →
      e < t.contracts.size := by
    intro t ht name e he
    rw [Registry.find?, Entries.get?_put] at he
    split at he
    · cases he
      exact ht ▸ hc
    · exact ht ▸ h.registered name e he
  simp only [Registry.register] at hr
  split at hr
  · cases hr
    exact { h with registered := hfind s rfl }
  · next previous hprevious =>
    split at hr
    · cases hr
      exact { h with registered := hfind s rfl }
    · split at hr
      · next hsupersede =>
        cases hr
        simp only [Store.supersede] at hsupersede
        split at hsupersede
        · cases hsupersede
        · cases hsupersede
          have hlinked := h.setContract ((s.versions c).getLastD c)
            (k := { s.contract ((s.versions c).getLastD c) with supersedes? := some previous })
            (h.patches_settled _) (h.params_held _) fun p hp => by
              cases hp
              exact h.registered _ _ hprevious
          exact { hlinked with registered := hfind _ (Store.size_setContract s _ _) }
      · cases hr

end WellFormed

end CallContract
