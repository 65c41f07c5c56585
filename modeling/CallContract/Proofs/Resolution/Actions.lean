import CallContract.Proofs.Resolution.Edits
import CallContract.Proofs.Stateful

/-!
# Actions — resolution never fails by itself on a well-formed store

Each action has one statement: it goes through, it is an edit of its contract, and where no parameter is shared the
content of the contract becomes what the action on contents gives.  Merging changes neither what the contract declares
nor whether it is resolved; completion marks it as resolved.
-/

namespace CallContract.Resolution

variable {r : Registry} {c : ContractId} {s t : Store} {w : Work}

theorem store_note (message : String) (w : Work) : (w.note message).store = w.store := rfl

theorem store_warn (warning : Warning) (w : Work) : (w.warn warning).store = w.store := rfl

/-! ## 1. Taking a parameter -/

theorem settled_inherited {p : Param} (h : p.Settled) (ref : Reference) : (Content.inherited ref p).Settled :=
  ⟨h.plain, h.grouping⟩

theorem settled_widen {existing : Param} (h : existing.Settled) (p : Param) : (widen existing p).Settled := by
  rw [widen]
  split
  · exact ⟨⟨.both, rfl⟩, h.grouping⟩
  · exact h

theorem inheritedCopy_of_settled {p : Param} (h : p.Settled) (ref : Reference) :
    inheritedCopy ref p = .ok (Content.inherited ref p) := by
  rw [inheritedCopy, Param.clone_of_settled h]
  rfl

theorem takeParam_of_some {ref : Reference} {id existing : ParamId}
    (h : Entries.get? (w.store.param id).name (w.store.contract c).params = some existing) :
    takeParam c ref id w
      = .ok () { w with store := w.store.setParam existing (widen (w.store.param existing) (w.store.param id)) } := by
  rw [takeParam, get_bind]
  simp only [h]
  rfl

theorem takeParam_of_none {ref : Reference} {id : ParamId} {p : Param}
    (h : Entries.get? (w.store.param id).name (w.store.contract c).params = none)
    (hcopy : inheritedCopy ref (w.store.param id) = .ok p) :
    takeParam c ref id w = .ok () { w with store := (w.store.pushParam p).insert c w.store.params.size } := by
  rw [takeParam, get_bind]
  simp only [h, hcopy]
  rfl

-- A parameter that cannot be copied is refused.
theorem takeParam_of_error {ref : Reference} {id : ParamId} {fault : BuildFault}
    (h : Entries.get? (w.store.param id).name (w.store.contract c).params = none)
    (hcopy : inheritedCopy ref (w.store.param id) = .error fault) :
    takeParam c ref id w = .error (.build fault) w := by
  rw [takeParam, get_bind]
  simp only [h, hcopy]
  rfl

theorem get?_content (s : Store) (c : ContractId) (key : String) :
    Entries.get? key (s.content c).params = (Entries.get? key (s.contract c).params).map s.param :=
  Entries.get?_mapValues s.param key (s.contract c).params

-- Taking a parameter goes through.
theorem takeParam_spec (hs : WellFormed r w.store) (hc : c < w.store.contracts.size) (ref : Reference) (id : ParamId) :
    ∃ w', takeParam c ref id w = .ok () w' ∧ Edits r c w.store w'.store ∧ SameStanding c w.store w'.store ∧
      ((w.store.contract c).paramIds.Nodup →
        w'.store.content c = (w.store.content c).take ref (w.store.param id)) := by
  have hp := hs.params_settled id
  cases h : Entries.get? (w.store.param id).name (w.store.contract c).params with
  | some existing =>
    have hid := hs.params_held c existing (Entries.mem_values_of_get? h)
    have hw := settled_widen (hs.params_settled existing) (w.store.param id)
    refine ⟨_, takeParam_of_some h, edits_setParam hs h hw, ⟨rfl, rfl⟩, fun hn => ?_⟩
    rw [content_setParam hid hn h, Content.take, get?_content, h]
    rfl
  | none =>
    refine ⟨_, takeParam_of_none h (inheritedCopy_of_settled hp ref), edits_insert hs hc (settled_inherited hp ref), ⟨?_, ?_⟩, fun _ => ?_⟩
    · rw [contract_insert_pushParam hc]
    · rw [contract_insert_pushParam hc]
    · rw [content_insert hs hc, Content.take, get?_content, h]
      rfl

/-! ## 2. Merging an interface -/

-- Taking parameters that the contract does not hold goes through, one after the other.
theorem forM_takeParam_spec (hs : WellFormed r w.store) (hc : c < w.store.contracts.size) (ref : Reference)
    {ids : List ParamId} (hids : ∀ id ∈ ids, id < w.store.params.size) :
    ∃ w', ids.forM (takeParam c ref) w = .ok () w' ∧ Edits r c w.store w'.store ∧ SameStanding c w.store w'.store ∧
      ((w.store.contract c).paramIds.Nodup → (∀ id ∈ ids, id ∉ (w.store.contract c).paramIds) →
        w'.store.content c = (ids.map w.store.param).foldl (Content.take ref) (w.store.content c)) := by
  induction ids generalizing w with
  | nil => exact ⟨w, rfl, Edits.refl c hs, SameStanding.refl c _, fun _ _ => rfl⟩
  | cons id rest ih =>
    obtain ⟨v, hv, hedit, hsame, hcontent⟩ := takeParam_spec hs hc ref id
    have hrest : ∀ j ∈ rest, j < v.store.params.size := fun j hj =>
      Nat.lt_of_lt_of_le (hids j (List.mem_cons_of_mem id hj)) hedit.size_params_le
    obtain ⟨w', hw', hedit', hsame', hcontent'⟩ := ih hedit.wellFormed (hedit.size_eq ▸ hc) hrest
    refine ⟨w', ?_, hedit.trans hedit', hsame.trans hsame', fun hn hforeign => ?_⟩
    · change EStateM.bind (takeParam c ref id) (fun _ => rest.forM (takeParam c ref)) w = _
      rw [EStateM.bind, hv]
      exact hw'
    · have hkept : ∀ j ∈ rest, v.store.param j = w.store.param j ∧ j ∉ (v.store.contract c).paramIds := fun j hj =>
        hedit.foreign j (hids j (List.mem_cons_of_mem id hj)) (hforeign j (List.mem_cons_of_mem id hj))
      rw [hcontent' (hedit.nodup hn) fun j hj => (hkept j hj).2, hcontent hn,
        List.map_congr_left fun j hj => (hkept j hj).1]
      rfl

-- Taking properties, which the journal records.
theorem takeProperties_spec (hs : WellFormed r w.store) (hc : c < w.store.contracts.size) (interface : ContractId) :
    Edits r c w.store (takeProperties c interface w).store ∧
      SameStanding c w.store (takeProperties c interface w).store ∧
      (takeProperties c interface w).store.content c
        = (w.store.content c).takeProperties (w.store.content interface) := by
  rw [takeProperties]
  by_cases h : (newProperties (w.store.contract c) (w.store.contract interface)).isEmpty = true
  · rw [if_pos h]
    refine ⟨Edits.refl c hs, SameStanding.refl c _, ?_⟩
    have hnil : (w.store.content interface).properties.filter
        (fun e => !Entries.has e.1 (w.store.content c).properties) = [] := List.isEmpty_iff.mp h
    rw [Content.takeProperties, hnil, List.append_nil]
  · rw [if_neg h]
    let k := w.store.contract c
    let k' := { k with properties := k.properties ++ newProperties k (w.store.contract interface) }
    have hk : (w.store.setContract c k').contract c = k' := Store.contract_setContract_self _ _ hc
    have hedit : Edits r c w.store (w.store.setContract c k') :=
      edits_setContract hs hc rfl rfl rfl rfl (List.Sublist.refl _)
    refine ⟨hedit, ⟨?_, ?_⟩, content_setContract hc k'⟩
    · change ((w.store.setContract c k').contract c).declared = _
      rw [hk]
    · change ((w.store.setContract c k').contract c).resolved = _
      rw [hk]

/-- Merging another contract goes through. -/
theorem merge_spec (hs : WellFormed r w.store) (hc : c < w.store.contracts.size) {interface : ContractId}
    (hi : interface ≠ c) (ref : Reference) :
    ∃ w', merge c interface ref w = .ok () w' ∧ Edits r c w.store w'.store ∧ SameStanding c w.store w'.store ∧
      ((w.store.contract c).paramIds.Nodup →
        (∀ id ∈ (w.store.contract interface).paramIds, id ∉ (w.store.contract c).paramIds) →
        w'.store.content c = (w.store.content c).merge ref (w.store.content interface)) := by
  obtain ⟨v, hv, hedit, hsame, hcontent⟩ := forM_takeParam_spec hs hc ref (hs.params_held interface)
  obtain ⟨hedit', hsame', hcontent'⟩ := takeProperties_spec hedit.wellFormed (hedit.size_eq ▸ hc) interface
  refine ⟨takeProperties c interface v, ?_, hedit.trans hedit', hsame.trans hsame', fun hn hapart => ?_⟩
  · change EStateM.bind (takeParams c interface ref) _ w = _
    have ht : takeParams c interface ref w = .ok () v := hv
    rw [EStateM.bind, ht]
    rfl
  · have hvalues : Entries.values (w.store.content interface).params
        = (w.store.contract interface).paramIds.map w.store.param := Entries.values_mapValues _ _
    rw [hcontent', hedit.content_of_apart hs hi hapart, hcontent hn hapart, Content.merge, hvalues]

/-! ## 3. Applying patches -/

theorem applyPatch_of_none {patch : Patch} (h : Entries.get? patch.name (w.store.contract c).params = none) :
    applyPatch c patch w = .ok () (w.warn (.danglingPatch (w.store.contract c).name patch.name)) := by
  rw [applyPatch, get_bind]
  simp only [h]
  rfl

/-- A contract without one of its parameters. -/
def withoutParam (key : String) (k : Contract) : Contract := { k with params := Entries.erase key k.params }

theorem applyPatch_of_some {patch : Patch} {existing : ParamId} {copy : Param}
    (h : Entries.get? patch.name (w.store.contract c).params = some existing)
    (hclone : (w.store.param existing).clone = .ok copy) :
    let erased := w.store.setContract c (withoutParam patch.name (w.store.contract c))
    applyPatch c patch w
      = .ok () { w with store := (erased.pushParam (patch.apply copy)).insert c w.store.params.size } := by
  intro erased
  have herased : ((w.change c (withoutParam patch.name)).store.param existing).clone = .ok copy := hclone
  unfold withoutParam at herased
  rw [applyPatch, get_bind]
  simp only [h, herased]
  rfl

-- A parameter that cannot be copied is taken out and not put back.
theorem applyPatch_of_error {patch : Patch} {existing : ParamId} {fault : BuildFault}
    (h : Entries.get? patch.name (w.store.contract c).params = some existing)
    (hclone : (w.store.param existing).clone = .error fault) :
    applyPatch c patch w = .error (.build fault) (w.change c (withoutParam patch.name)) := by
  have herased : ((w.change c (withoutParam patch.name)).store.param existing).clone = .error fault := hclone
  unfold withoutParam at herased
  rw [applyPatch, get_bind]
  simp only [h, herased]
  rfl

-- Applying a patch goes through, whether or not there is something to patch.
theorem applyPatch_spec (hs : WellFormed r w.store) (hc : c < w.store.contracts.size) {patch : Patch}
    (hpatch : patch.Settled) :
    ∃ w', applyPatch c patch w = .ok () w' ∧ Edits r c w.store w'.store ∧ SameStanding c w.store w'.store ∧
      w'.store.content c = (w.store.content c).applyPatch patch := by
  cases h : Entries.get? patch.name (w.store.contract c).params with
  | none =>
    refine ⟨_, applyPatch_of_none h, Edits.refl c hs, SameStanding.refl c _, ?_⟩
    rw [Content.applyPatch, get?_content, h]
    rfl
  | some existing =>
    let k := w.store.contract c
    let erased := w.store.setContract c (withoutParam patch.name k)
    have hk : erased.contract c = withoutParam patch.name k := Store.contract_setContract_self _ _ hc
    have hedit : Edits r c w.store erased :=
      edits_setContract hs hc rfl rfl rfl rfl (Entries.values_erase_sublist patch.name k.params)
    have hce : c < erased.contracts.size := hedit.size_eq ▸ hc
    have hp := hs.params_settled existing
    refine ⟨_, applyPatch_of_some h (Param.clone_of_settled hp),
      hedit.trans (edits_insert hedit.wellFormed hce (Patch.settled_apply hpatch hp)), ⟨?_, ?_⟩, ?_⟩
    · change (((erased.pushParam _).insert c erased.params.size).contract c).declared = _
      rw [contract_insert_pushParam hce, hk]
      rfl
    · change (((erased.pushParam _).insert c erased.params.size).contract c).resolved = _
      rw [contract_insert_pushParam hce, hk]
      rfl
    · change ((erased.pushParam _).insert c erased.params.size).content c = _
      rw [content_insert hedit.wellFormed hce, content_setContract hc, withoutParam, Entries.mapValues_erase,
        Content.applyPatch, get?_content, h]
      rfl

-- Applying patches goes through, one after the other.
theorem forM_applyPatch_spec (hs : WellFormed r w.store) (hc : c < w.store.contracts.size) {patches : List Patch}
    (hpatches : ∀ patch ∈ patches, patch.Settled) :
    ∃ w', patches.forM (applyPatch c) w = .ok () w' ∧ Edits r c w.store w'.store ∧
      SameStanding c w.store w'.store ∧ w'.store.content c = patches.foldl Content.applyPatch (w.store.content c) := by
  induction patches generalizing w with
  | nil => exact ⟨w, rfl, Edits.refl c hs, SameStanding.refl c _, rfl⟩
  | cons patch rest ih =>
    obtain ⟨v, hv, hedit, hsame, hcontent⟩ := applyPatch_spec hs hc (hpatches patch List.mem_cons_self)
    obtain ⟨w', hw', hedit', hsame', hcontent'⟩ := ih hedit.wellFormed (hedit.size_eq ▸ hc)
      fun p hp => hpatches p (List.mem_cons_of_mem patch hp)
    refine ⟨w', ?_, hedit.trans hedit', hsame.trans hsame', ?_⟩
    · change EStateM.bind (applyPatch c patch) (fun _ => rest.forM (applyPatch c)) w = _
      rw [EStateM.bind, hv]
      exact hw'
    · rw [hcontent', hcontent]
      rfl

/-! ## 4. Expansion and completion -/

-- Replacing what a contract declares, or how it stands, leaves its content.
theorem edits_change (hs : WellFormed r w.store) (hc : c < w.store.contracts.size) {f : Contract → Contract}
    (hf : ∀ k, f k = { k with declared := (f k).declared, convertible? := (f k).convertible?, resolved := (f k).resolved }) :
    Edits r c w.store (w.change c f).store ∧ (w.change c f).store.contract c = f (w.store.contract c) ∧
      (w.change c f).store.content c = w.store.content c := by
  have hk : (w.change c f).store.contract c = f (w.store.contract c) := Store.contract_setContract_self _ _ hc
  refine ⟨edits_setContract hs hc ?_ ?_ ?_ ?_ ?_, hk, ?_⟩
  · rw [hf]
  · rw [hf]
  · rw [hf]
  · rw [hf]
  · rw [hf]
    exact List.Sublist.refl _
  · rw [Work.change, content_setContract hc, hf]
    rfl

/-- After expansion the contract declares its group's members, or what it declared before. -/
theorem expandGroup_spec {d : Directory} (hs : WellFormed r w.store) (hc : c < w.store.contracts.size) :
    Edits r c w.store (expandGroup d c w).store ∧
      ((expandGroup d c w).store.contract c).declared = expandedReferences d (w.store.contract c) ∧
      ((expandGroup d c w).store.contract c).resolved = (w.store.contract c).resolved ∧
      (expandGroup d c w).store.content c = w.store.content c := by
  rw [expandGroup]
  by_cases h : isGroup (w.store.contract c) = true
  · simp only [if_pos h]
    obtain ⟨hedit, hk, hcontent⟩ := edits_change hs hc
      (f := fun k => { k with declared := expandedReferences d (w.store.contract c) }) fun _ => rfl
    rw [store_note]
    exact ⟨hedit, by rw [hk], by rw [hk], hcontent⟩
  · rw [if_neg h, expandedReferences, if_neg h]
    exact ⟨Edits.refl c hs, rfl, rfl, rfl⟩

/-- Completion goes through: references to the superseded definition are dropped, the patches are applied, and the
contract is resolved. -/
theorem complete_spec (hs : WellFormed r w.store) (hc : c < w.store.contracts.size) :
    ∃ w', complete c w = .ok () w' ∧ Edits r c w.store w'.store ∧
      (w'.store.contract c).declared
        = withoutPredecessor (predecessorName? w.store c) (w.store.contract c).declared ∧
      (w'.store.contract c).resolved = true ∧
      w'.store.content c = (w.store.contract c).patches.foldl Content.applyPatch (w.store.content c) := by
  obtain ⟨hdrop, hk, hdropped⟩ := edits_change hs hc
    (f := fun k => { k with declared := withoutPredecessor (predecessorName? w.store c) k.declared }) fun _ => rfl
  obtain ⟨v, hv, hpatch, hsame, hpatched⟩ := forM_applyPatch_spec (w := dropPredecessor c w) hdrop.wellFormed
    (hdrop.size_eq ▸ hc) (hdrop.wellFormed.patches_settled c)
  obtain ⟨hmark, hk', hmarked⟩ := edits_change (w := v) hpatch.wellFormed
    (hpatch.size_eq ▸ hdrop.size_eq ▸ hc)
    (f := fun k => { k with convertible? := none, resolved := true }) fun _ => rfl
  refine ⟨markResolved c v, ?_, hdrop.trans (hpatch.trans hmark), ?_, ?_, ?_⟩
  · have ha : applyPatches c (dropPredecessor c w) = .ok () v := hv
    change EStateM.bind (applyPatches c) (fun _ => modify (markResolved c)) (dropPredecessor c w) = _
    rw [EStateM.bind, ha]
    rfl
  · rw [markResolved, store_note, hk']
    change (v.store.contract c).declared = _
    rw [hsame.declared_eq, dropPredecessor, hk]
  · rw [markResolved, store_note, hk']
  · rw [markResolved, store_note, hmarked, hpatched, dropPredecessor, hdropped, hk]

end CallContract.Resolution
