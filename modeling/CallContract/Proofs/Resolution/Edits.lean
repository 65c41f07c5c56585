import CallContract.Proofs.Resolution.Content

/-!
# Edits — what each action of resolution does to the store

Every action of resolution works on one contract.  It changes that contract, parameters that the contract holds, and
parameters that are new; what the contract is called, which patches it has, which group it stands for and which
definition it supersedes stays.  Where no parameter is shared, the content of the contract changes as the action on
contents says, and the contents of all other contracts stay.
-/

namespace CallContract.Resolution

variable {r : Registry} {c : ContractId} {s t u : Store} {w : Work}

/-! ## 1. Edits of one contract -/

/-- The second store comes from the first one by an edit of one contract. -/
structure Edits (r : Registry) (c : ContractId) (s t : Store) : Prop where
  size_eq : t.contracts.size = s.contracts.size
  others : ∀ e, e ≠ c → t.contract e = s.contract e
  info_eq : (t.contract c).info = (s.contract c).info
  patches_eq : (t.contract c).patches = (s.contract c).patches
  group_eq : (t.contract c).internalGroup? = (s.contract c).internalGroup?
  supersedes_eq : (t.contract c).supersedes? = (s.contract c).supersedes?
  wellFormed : WellFormed r t
  size_params_le : s.params.size ≤ t.params.size
  /-- A parameter that the contract does not hold stays as it is, and the contract does not come to hold it. -/
  foreign : ∀ id < s.params.size, id ∉ (s.contract c).paramIds →
    t.param id = s.param id ∧ id ∉ (t.contract c).paramIds
  nodup : (s.contract c).paramIds.Nodup → (t.contract c).paramIds.Nodup

/-- The contract declares what it declared before, and is resolved if it was before. -/
structure SameStanding (c : ContractId) (s t : Store) : Prop where
  declared_eq : (t.contract c).declared = (s.contract c).declared
  resolved_eq : (t.contract c).resolved = (s.contract c).resolved

theorem SameStanding.refl (c : ContractId) (s : Store) : SameStanding c s s := ⟨rfl, rfl⟩

theorem SameStanding.trans (h : SameStanding c s t) (h' : SameStanding c t u) : SameStanding c s u :=
  ⟨h'.declared_eq.trans h.declared_eq, h'.resolved_eq.trans h.resolved_eq⟩

namespace Edits

theorem refl (c : ContractId) (h : WellFormed r s) : Edits r c s s where
  size_eq := rfl
  others _ _ := rfl
  info_eq := rfl
  patches_eq := rfl
  group_eq := rfl
  supersedes_eq := rfl
  wellFormed := h
  size_params_le := Nat.le_refl _
  foreign _ _ h := ⟨rfl, h⟩
  nodup h := h

theorem trans (h : Edits r c s t) (h' : Edits r c t u) : Edits r c s u where
  size_eq := h'.size_eq.trans h.size_eq
  others e he := (h'.others e he).trans (h.others e he)
  info_eq := h'.info_eq.trans h.info_eq
  patches_eq := h'.patches_eq.trans h.patches_eq
  group_eq := h'.group_eq.trans h.group_eq
  supersedes_eq := h'.supersedes_eq.trans h.supersedes_eq
  wellFormed := h'.wellFormed
  size_params_le := Nat.le_trans h.size_params_le h'.size_params_le
  foreign id hid hc := by
    obtain ⟨hp, hn⟩ := h.foreign id hid hc
    obtain ⟨hp', hn'⟩ := h'.foreign id (Nat.lt_of_lt_of_le hid h.size_params_le) hn
    exact ⟨hp'.trans hp, hn'⟩
  nodup hn := h'.nodup (h.nodup hn)

/-- A contract that shares no parameter with the edited one keeps its content. -/
theorem content_of_apart (h : Edits r c s t) (hs : WellFormed r s) {e : ContractId} (he : e ≠ c)
    (hapart : ∀ id ∈ (s.contract e).paramIds, id ∉ (s.contract c).paramIds) : t.content e = s.content e := by
  have hp : ∀ id ∈ Entries.values (s.contract e).params, t.param id = s.param id := by
    intro id hid
    exact (h.foreign id (hs.params_held e id hid) (hapart id hid)).1
  rw [Store.content, Store.content, h.others e he, Entries.mapValues_congr hp]

/-- Where no parameter is shared, other contracts keep their contents. -/
theorem content_of_ne (h : Edits r c s t) (hs : WellFormed r s) (hu : s.Unshared) {e : ContractId} (he : e ≠ c) :
    t.content e = s.content e :=
  h.content_of_apart hs he fun id hid hc => he (hu.disjoint e c id hid hc)

/-- An edit lets no parameter be shared. -/
theorem unshared (h : Edits r c s t) (hs : WellFormed r s) (hu : s.Unshared) : t.Unshared := by
  have hother : ∀ e id, e ≠ c → id ∈ (t.contract e).paramIds → id ∉ (t.contract c).paramIds := by
    intro e id he hid
    rw [h.others e he] at hid
    exact (h.foreign id (hs.params_held e id hid) fun hc => he (hu.disjoint e c id hid hc)).2
  refine ⟨fun e => ?_, fun a b id ha hb => ?_⟩
  · by_cases he : e = c
    · exact he ▸ h.nodup (hu.nodup c)
    · rw [h.others e he]
      exact hu.nodup e
  · by_cases hac : a = c
    · by_cases hbc : b = c
      · rw [hac, hbc]
      · exact absurd (hac ▸ ha) (hother b id hbc hb)
    · by_cases hbc : b = c
      · exact absurd (hbc ▸ hb) (hother a id hac ha)
      · rw [h.others a hac] at ha
        rw [h.others b hbc] at hb
        exact hu.disjoint a b id ha hb

end Edits

/-! ## 2. Primitive edits -/

-- Replacing a contract by one that holds no other parameters.
theorem edits_setContract (hs : WellFormed r s) (hc : c < s.contracts.size) {k : Contract}
    (hinfo : k.info = (s.contract c).info) (hpatches : k.patches = (s.contract c).patches)
    (hgroup : k.internalGroup? = (s.contract c).internalGroup?)
    (hsupersedes : k.supersedes? = (s.contract c).supersedes?)
    (hids : k.paramIds.Sublist (s.contract c).paramIds) : Edits r c s (s.setContract c k) := by
  have hk : (s.setContract c k).contract c = k := Store.contract_setContract_self s k hc
  refine ⟨Store.size_setContract s c k, fun e he => Store.contract_setContract_of_ne s k (Ne.symm he), ?_, ?_, ?_, ?_,
    ?_, Nat.le_refl _, fun id _ hn => ⟨rfl, ?_⟩, ?_⟩
  · rw [hk, hinfo]
  · rw [hk, hpatches]
  · rw [hk, hgroup]
  · rw [hk, hsupersedes]
  · refine hs.setContract c ?_ (fun id hid => hs.params_held c id (hids.subset hid)) ?_
    · rw [hpatches]
      exact hs.patches_settled c
    · rw [hsupersedes]
      exact hs.supersedes_held c
  · rw [hk]
    exact fun h => hn (hids.subset h)
  · rw [hk]
    exact fun h => h.sublist hids

theorem content_setContract (hc : c < s.contracts.size) (k : Contract) :
    (s.setContract c k).content c = ⟨Entries.mapValues s.param k.params, k.properties⟩ := by
  rw [Store.content, Store.contract_setContract_self s k hc]
  rfl

-- Changing a parameter that the contract holds.
theorem edits_setParam {key : String} {id : ParamId} {p : Param} (hs : WellFormed r s)
    (hget : Entries.get? key (s.contract c).params = some id) (hp : p.Settled) : Edits r c s (s.setParam id p) := by
  refine ⟨rfl, fun _ _ => rfl, rfl, rfl, rfl, rfl, hs.setParam hp id, ?_, fun j _ hj => ⟨?_, hj⟩, fun h => h⟩
  · have hsize : (s.params.setIfInBounds id p).size = s.params.size := Array.size_setIfInBounds
    exact Nat.le_of_eq hsize.symm
  · exact Store.param_setParam_of_ne s p fun e => hj (e ▸ Entries.mem_values_of_get? hget)

theorem content_setParam {key : String} {id : ParamId} {p : Param} (hid : id < s.params.size)
    (hn : (s.contract c).paramIds.Nodup) (hget : Entries.get? key (s.contract c).params = some id) :
    (s.setParam id p).content c = { s.content c with params := Entries.put key p (s.content c).params } := by
  rw [Store.content, Store.contract_setParam,
    Entries.mapValues_update (f := s.param) hn hget fun j hj => Store.param_setParam_of_ne s p (Ne.symm hj),
    Store.param_setParam_self s p hid]
  rfl

-- A contract after a new parameter has been put into it.
theorem contract_insert_pushParam (hc : c < s.contracts.size) (p : Param) :
    ((s.pushParam p).insert c s.params.size).contract c
      = { s.contract c with params := Entries.put p.name s.params.size (s.contract c).params } := by
  have hnew : (s.pushParam p).param s.params.size = p := by rw [Store.param_pushParam, if_pos rfl]
  have hc' : c < (s.pushParam p).contracts.size := hc
  rw [Store.insert, Store.contract_setContract_self _ _ hc', Store.holding, hnew]
  rfl

-- Putting a new parameter into the contract.
theorem edits_insert {p : Param} (hs : WellFormed r s) (hc : c < s.contracts.size) (hp : p.Settled) :
    Edits r c s ((s.pushParam p).insert c s.params.size) := by
  have hk := contract_insert_pushParam hc p
  have hsize : (s.pushParam p).params.size = s.params.size + 1 := Array.size_push _
  refine ⟨Store.size_setContract _ c _, fun e he => Store.contract_setContract_of_ne _ _ (Ne.symm he), ?_, ?_, ?_, ?_,
    (hs.pushParam hp).insert c ?_, ?_, fun id hid hn => ⟨?_, ?_⟩, ?_⟩
  · rw [hk]
  · rw [hk]
  · rw [hk]
  · rw [hk]
  · rw [hsize]
    exact Nat.lt_succ_self _
  · change s.params.size ≤ (s.pushParam p).params.size
    rw [hsize]
    exact Nat.le_succ _
  · change (s.pushParam p).param id = s.param id
    rw [Store.param_pushParam, if_neg (Nat.ne_of_lt hid)]
  · rw [hk]
    intro h
    rcases Entries.mem_values_put h with rfl | h
    · exact Nat.lt_irrefl _ hid
    · exact hn h
  · rw [hk]
    exact fun h => Entries.nodup_values_put h fun hm => Nat.lt_irrefl _ (hs.params_held c _ hm)

theorem content_insert (hs : WellFormed r s) (hc : c < s.contracts.size) (p : Param) :
    ((s.pushParam p).insert c s.params.size).content c
      = { s.content c with params := Entries.put p.name p (s.content c).params } := by
  have hnew : (s.pushParam p).param s.params.size = p := by rw [Store.param_pushParam, if_pos rfl]
  have hold : ∀ id ∈ Entries.values (s.contract c).params, (s.pushParam p).param id = s.param id := by
    intro id hid
    rw [Store.param_pushParam, if_neg (Nat.ne_of_lt (hs.params_held c id hid))]
  rw [Store.content, contract_insert_pushParam hc p]
  change (⟨Entries.mapValues (s.pushParam p).param (Entries.put p.name s.params.size (s.contract c).params),
    (s.contract c).properties⟩ : Content) = _
  rw [Entries.mapValues_put, hnew, Entries.mapValues_congr hold]
  rfl

end CallContract.Resolution
