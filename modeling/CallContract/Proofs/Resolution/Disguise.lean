import CallContract.Proofs.Resolution.Steps

/-!
# Disguise — a store in which one contract has another engine and other references

Apart from the choice of the references to follow, no action of resolution looks at the engine of a contract or at what
it declares.  So an action on a store and the same action on a disguised one end alike: the second store is the first one
in the same disguise.
-/

namespace CallContract.Resolution

variable {d : Directory} {limit : Int} {c e : ContractId} {engine : String} {refs : List Reference} {s s' : Store}

/-! ## 1. Disguised stores -/

/-- The second store is the first one, except that one contract has the given engine and, until it is resolved, declares
the given references. -/
structure Disguised (c : ContractId) (engine : String) (refs : List Reference) (s s' : Store) : Prop where
  held : c < s.contracts.size
  params_eq : s'.params = s.params
  size_eq : s'.contracts.size = s.contracts.size
  others : ∀ e, e ≠ c → s'.contract e = s.contract e
  same : s'.contract c
    = { s.contract c with info := { (s.contract c).info with engine }, declared := (s'.contract c).declared }
  declared_eq : (s.contract c).resolved = false → (s'.contract c).declared = refs

namespace Disguised

-- What is read off a contract besides its engine and its references is the same.
theorem read {α : Type} (h : Disguised c engine refs s s') (f : Contract → α)
    (hf : ∀ (k : Contract) engine refs, f { k with info := { k.info with engine }, declared := refs } = f k)
    (e : ContractId) : f (s'.contract e) = f (s.contract e) := by
  by_cases he : e = c
  · rw [he, h.same, hf]
  · rw [h.others e he]

theorem params (h : Disguised c engine refs s s') (e : ContractId) :
    (s'.contract e).params = (s.contract e).params := h.read Contract.params (fun _ _ _ => rfl) e

theorem resolved (h : Disguised c engine refs s s') (e : ContractId) :
    (s'.contract e).resolved = (s.contract e).resolved := h.read Contract.resolved (fun _ _ _ => rfl) e

theorem param (h : Disguised c engine refs s s') (id : ParamId) : s'.param id = s.param id := by
  rw [Store.param, h.params_eq, Store.param]

theorem content (h : Disguised c engine refs s s') (e : ContractId) : s'.content e = s.content e := by
  rw [Store.content, Store.content, h.params, funext h.param, h.read Contract.properties fun _ _ _ => rfl]

theorem predecessor? (h : Disguised c engine refs s s') (e : ContractId) : predecessor? s' e = predecessor? s e :=
  h.read Contract.supersedes? (fun _ _ _ => rfl) e

theorem name (h : Disguised c engine refs s s') (e : ContractId) : (s'.contract e).name = (s.contract e).name :=
  h.read Contract.name (fun _ _ _ => rfl) e

theorem predecessorName? (h : Disguised c engine refs s s') (e : ContractId) :
    predecessorName? s' e = predecessorName? s e := by
  rw [Resolution.predecessorName?, Resolution.predecessorName?, h.predecessor?]
  exact congrArg (Option.map · _) (funext h.name)

-- A reference stands for the same contract.
theorem target_eq (h : Disguised c engine refs s s') (d : Directory) (e : ContractId) (ref : Reference) :
    target d s' e ref = target d s e ref := by
  rw [target, target, h.predecessor?]
  cases Resolution.predecessor? s e with
  | none => rfl
  | some p => simp only [h.name p]

/-! ## 2. Writing -/

theorem setParam (h : Disguised c engine refs s s') (id : ParamId) (p : Param) :
    Disguised c engine refs (s.setParam id p) (s'.setParam id p) where
  held := h.held
  params_eq := by rw [Store.setParam, Store.setParam, h.params_eq]
  size_eq := h.size_eq
  others := h.others
  same := h.same
  declared_eq := h.declared_eq

theorem pushParam (h : Disguised c engine refs s s') (p : Param) :
    Disguised c engine refs (s.pushParam p) (s'.pushParam p) where
  held := h.held
  params_eq := by rw [Store.pushParam, Store.pushParam, h.params_eq]
  size_eq := h.size_eq
  others := h.others
  same := h.same
  declared_eq := h.declared_eq

theorem setContract_of_ne (h : Disguised c engine refs s s') (he : e ≠ c) (k : Contract) :
    Disguised c engine refs (s.setContract e k) (s'.setContract e k) where
  held := by
    rw [Store.size_setContract]
    exact h.held
  params_eq := h.params_eq
  size_eq := by rw [Store.size_setContract, Store.size_setContract, h.size_eq]
  others x hx := by rw [Store.contract_setContract, Store.contract_setContract, h.size_eq, h.others x hx]
  same := by
    rw [Store.contract_setContract_of_ne _ k he, Store.contract_setContract_of_ne _ k he]
    exact h.same
  declared_eq := by
    rw [Store.contract_setContract_of_ne _ k he, Store.contract_setContract_of_ne _ k he]
    exact h.declared_eq

theorem setContract_self (h : Disguised c engine refs s s') {k k' : Contract} {refs' : List Reference}
    (hk : k' = { k with info := { k.info with engine }, declared := k'.declared })
    (hdeclared : k.resolved = false → k'.declared = refs') :
    Disguised c engine refs' (s.setContract c k) (s'.setContract c k') := by
  have hheld : c < s'.contracts.size := h.size_eq ▸ h.held
  refine ⟨?_, h.params_eq, ?_, fun x hx => ?_, ?_, ?_⟩
  · rw [Store.size_setContract]
    exact h.held
  · rw [Store.size_setContract, Store.size_setContract, h.size_eq]
  · rw [Store.contract_setContract_of_ne _ k' (Ne.symm hx), Store.contract_setContract_of_ne _ k (Ne.symm hx),
      h.others x hx]
  · rw [Store.contract_setContract_self _ k' hheld, Store.contract_setContract_self _ k h.held]
    exact hk
  · rw [Store.contract_setContract_self _ k' hheld, Store.contract_setContract_self _ k h.held]
    exact hdeclared

theorem change_of_ne (h : Disguised c engine refs s s') (he : e ≠ c) (f : Contract → Contract) :
    Disguised c engine refs (s.setContract e (f (s.contract e))) (s'.setContract e (f (s'.contract e))) := by
  rw [h.others e he]
  exact h.setContract_of_ne he _

-- A change that looks neither at the engine nor at the references, and leaves them.
theorem change (h : Disguised c engine refs s s') (e : ContractId) {f : Contract → Contract}
    (hf : ∀ (k : Contract) engine refs, f { k with info := { k.info with engine }, declared := refs }
      = { f k with info := { (f k).info with engine }, declared := refs })
    (hresolved : ∀ k, (f k).resolved = false → k.resolved = false) :
    Disguised c engine refs (s.setContract e (f (s.contract e))) (s'.setContract e (f (s'.contract e))) := by
  by_cases he : e = c
  · subst he
    have hsame : f (s'.contract e) = { f (s.contract e) with
        info := { (f (s.contract e)).info with engine }, declared := (s'.contract e).declared } := by
      rw [← hf, ← h.same]
    refine h.setContract_self ?_ fun hk => ?_
    · rw [hsame]
    · rw [hsame]
      exact h.declared_eq (hresolved _ hk)
  · exact h.change_of_ne he f

-- What the contract declares in the first store does not matter.
theorem redeclare (h : Disguised c engine refs s s') (declared : List Reference) :
    Disguised c engine refs (s.setContract c { s.contract c with declared }) s' where
  held := by
    rw [Store.size_setContract]
    exact h.held
  params_eq := h.params_eq
  size_eq := by rw [Store.size_setContract, h.size_eq]
  others x hx := by rw [Store.contract_setContract_of_ne _ _ (Ne.symm hx), h.others x hx]
  same := by
    rw [Store.contract_setContract_self _ _ h.held]
    exact h.same
  declared_eq := by
    rw [Store.contract_setContract_self _ _ h.held]
    exact h.declared_eq

-- Once the contract is resolved, it does not matter in the second store either.
theorem of_resolved (h : Disguised c engine refs s s') (hc : (s.contract c).resolved = true) (refs' : List Reference) :
    Disguised c engine refs' s s' :=
  { h with
    declared_eq := fun hunresolved => by
      rw [hc] at hunresolved
      cases hunresolved }

theorem insert (h : Disguised c engine refs s s') (e : ContractId) (id : ParamId) :
    Disguised c engine refs (s.insert e id) (s'.insert e id) := by
  have hholding : s'.holding = s.holding := by
    funext k id
    rw [Store.holding, Store.holding, h.param]
  rw [Store.insert, Store.insert, hholding]
  exact h.change e (f := fun k => s.holding k id) (fun _ _ _ => rfl) fun _ hk => hk

end Disguised

/-! ## 3. Actions that end alike -/

/-- Where the first action goes through, the second one does on a store that is related to the first one's, and the stores
afterwards are related too. -/
def Mirrors (P Q : Store → Store → Prop) (a a' : Action Unit) : Prop :=
  ∀ ⦃w w' v : Work⦄, P w.store w'.store → a w = .ok () v → ∃ v', a' w' = .ok () v' ∧ Q v.store v'.store

theorem mirrors_bind {P Q R : Store → Store → Prop} {a a' b b' : Action Unit} (ha : Mirrors P Q a a')
    (hb : Mirrors Q R b b') : Mirrors P R (a >>= fun _ => b) (a' >>= fun _ => b') := by
  intro w w' v hP hv
  cases hfirst : a w with
  | error abort u =>
    rw [bind_of_error hfirst] at hv
    cases hv
  | ok _ u =>
    rw [bind_of_ok hfirst] at hv
    obtain ⟨u', hu', hQ⟩ := ha hP hfirst
    obtain ⟨v', hv', hR⟩ := hb hQ hv
    exact ⟨v', (bind_of_ok hu').trans hv', hR⟩

theorem mirrors_modify {P Q : Store → Store → Prop} {f f' : Work → Work}
    (h : ∀ w w', P w.store w'.store → Q (f w).store (f' w').store) : Mirrors P Q (modify f) (modify f') := by
  intro w w' v hP hv
  cases hv
  exact ⟨f' w', rfl, h w w' hP⟩

theorem mirrors_pure {P : Store → Store → Prop} : Mirrors P P (pure ()) (pure ()) := by
  intro w w' v hP hv
  cases hv
  exact ⟨w', rfl, hP⟩

theorem mirrors_forM {α : Type} {P : Store → Store → Prop} {f f' : α → Action Unit} (h : ∀ x, Mirrors P P (f x) (f' x))
    (xs : List α) : Mirrors P P (xs.forM f) (xs.forM f') := by
  induction xs with
  | nil => exact mirrors_pure
  | cons x rest ih => exact mirrors_bind (h x) ih

-- An action that goes by the work from which it starts.
theorem mirrors_get_bind {P Q : Store → Store → Prop} {f f' : Work → Action Unit}
    (h : ∀ w w', P w.store w'.store → ∀ v, f w w = .ok () v → ∃ v', f' w' w' = .ok () v' ∧ Q v.store v'.store) :
    Mirrors P Q (get >>= f) (get >>= f') := fun w w' v hP hv => h w w' hP v hv

variable (c engine refs) in
theorem mirrors_takeParam (e : ContractId) (ref : Reference) (id : ParamId) :
    Mirrors (Disguised c engine refs) (Disguised c engine refs) (takeParam e ref id) (takeParam e ref id) := by
  intro w w' v h hv
  have hsame : Entries.get? (w'.store.param id).name (w'.store.contract e).params
      = Entries.get? (w.store.param id).name (w.store.contract e).params := by rw [h.param, h.params]
  cases hget : Entries.get? (w.store.param id).name (w.store.contract e).params with
  | some existing =>
    rw [takeParam_of_some hget] at hv
    cases hv
    refine ⟨_, takeParam_of_some (hsame.trans hget), ?_⟩
    rw [h.param existing, h.param id]
    exact h.setParam existing _
  | none =>
    cases hcopy : inheritedCopy ref (w.store.param id) with
    | error fault =>
      rw [takeParam_of_error hget hcopy] at hv
      cases hv
    | ok p =>
      rw [takeParam_of_none hget hcopy] at hv
      cases hv
      refine ⟨_, takeParam_of_none (hsame.trans hget) (h.param id ▸ hcopy), ?_⟩
      rw [h.params_eq]
      exact (h.pushParam p).insert e _

theorem disguised_takeProperties {w w' : Work} (h : Disguised c engine refs w.store w'.store)
    (e interface : ContractId) :
    Disguised c engine refs (takeProperties e interface w).store (takeProperties e interface w').store := by
  have hnew : ∀ k k' : Contract, k'.properties = k.properties →
      newProperties k' (w'.store.contract interface) = newProperties k (w.store.contract interface) := by
    intro k k' hk
    rw [newProperties, newProperties, hk, h.read Contract.properties fun _ _ _ => rfl]
  rw [takeProperties, takeProperties, hnew _ _ (h.read Contract.properties (fun _ _ _ => rfl) e)]
  split
  · exact h
  · have hchange := h.change e
      (f := fun k => { k with properties := k.properties ++ newProperties k (w.store.contract interface) })
      (fun _ _ _ => rfl) fun _ => id
    rw [← hnew (w'.store.contract e) (w'.store.contract e) rfl] at hchange
    exact hchange

theorem mirrors_merge (e interface : ContractId) (ref : Reference) :
    Mirrors (Disguised c engine refs) (Disguised c engine refs) (merge e interface ref) (merge e interface ref) := by
  refine mirrors_bind (mirrors_get_bind fun w w' h v hv => ?_)
    (mirrors_modify fun w w' h => disguised_takeProperties h e interface)
  rw [h.read Contract.paramIds fun _ _ _ => rfl]
  exact mirrors_forM (mirrors_takeParam c engine refs e ref) _ h hv

theorem mirrors_applyPatch (e : ContractId) (patch : Patch) :
    Mirrors (Disguised c engine refs) (Disguised c engine refs) (applyPatch e patch) (applyPatch e patch) := by
  intro w w' v h hv
  have hsame : Entries.get? patch.name (w'.store.contract e).params
      = Entries.get? patch.name (w.store.contract e).params := by rw [h.params]
  cases hget : Entries.get? patch.name (w.store.contract e).params with
  | none =>
    rw [applyPatch_of_none hget] at hv
    cases hv
    exact ⟨_, applyPatch_of_none (hsame.trans hget), h⟩
  | some existing =>
    cases hclone : (w.store.param existing).clone with
    | error fault =>
      rw [applyPatch_of_error hget hclone] at hv
      cases hv
    | ok copy =>
      rw [applyPatch_of_some hget hclone] at hv
      cases hv
      refine ⟨_, applyPatch_of_some (hsame.trans hget) (h.param existing ▸ hclone), ?_⟩
      have herased := h.change e (f := withoutParam patch.name) (fun _ _ _ => rfl) fun _ hk => hk
      rw [h.params_eq]
      exact (herased.pushParam (patch.apply copy)).insert e _

theorem mirrors_applyPatches (e : ContractId) :
    Mirrors (Disguised c engine refs) (Disguised c engine refs) (applyPatches e) (applyPatches e) := by
  refine mirrors_get_bind fun w w' h v hv => ?_
  rw [h.read Contract.patches fun _ _ _ => rfl]
  exact mirrors_forM (mirrors_applyPatch e) _ h hv

/-! ## 4. Expansion and completion -/

theorem disguised_expandGroup {w w' : Work} (h : Disguised c engine refs w.store w'.store)
    (hengine : engine ≠ Contract.groupEngine) (d : Directory) (e : ContractId) :
    Disguised c engine refs (expandGroup d e w).store (expandGroup d e w').store := by
  rw [expandGroup, expandGroup]
  dsimp only
  by_cases he : e = c
  · -- In its other engine the contract stands for no group, so only the first store changes.
    subst he
    have hplain : isGroup (w'.store.contract e) = false := by
      rw [isGroup, h.same]
      simp [hengine]
    rw [hplain, if_neg Bool.false_ne_true]
    split
    · exact h.redeclare _
    · exact h
  · rw [h.others e he]
    split
    · exact h.change_of_ne he fun k => { k with declared := expandedReferences d (w.store.contract e) }
    · exact h

theorem disguised_markResolved {w w' : Work} (h : Disguised c engine refs w.store w'.store) (e : ContractId) :
    Disguised c engine refs (markResolved e w).store (markResolved e w').store :=
  h.change e (f := fun k => { k with convertible? := none, resolved := true }) (fun _ _ _ => rfl) fun _ hk => by cases hk

theorem disguised_dropPredecessor {w w' : Work} (h : Disguised c engine refs w.store w'.store) (e : ContractId) :
    ∃ refs', (e ≠ c → refs' = refs) ∧
      Disguised c engine refs' (dropPredecessor e w).store (dropPredecessor e w').store := by
  rw [dropPredecessor, dropPredecessor, h.predecessorName?]
  let drop := withoutPredecessor (predecessorName? w.store e)
  by_cases he : e = c
  · subst he
    refine ⟨drop refs, fun hne => absurd rfl hne, h.setContract_self ?_ fun hunresolved => ?_⟩
    · exact congrArg (fun k : Contract => { k with declared := drop (w'.store.contract e).declared }) h.same
    · exact congrArg drop (h.declared_eq hunresolved)
  · exact ⟨refs, fun _ => rfl, h.change_of_ne he fun k => { k with declared := drop k.declared }⟩

theorem mirrors_complete (e : ContractId) :
    Mirrors (Disguised c engine refs) (Disguised c engine refs) (complete e) (complete e) := by
  let Dropped : Store → Store → Prop := fun s s' => ∃ refs', (e ≠ c → refs' = refs) ∧ Disguised c engine refs' s s'
  have hdrop : Mirrors (Disguised c engine refs) Dropped (modify (dropPredecessor e)) (modify (dropPredecessor e)) :=
    mirrors_modify fun w w' h => disguised_dropPredecessor h e
  have hpatch : Mirrors Dropped Dropped (applyPatches e) (applyPatches e) := by
    rintro w w' v ⟨refs', hrefs, h⟩ hv
    obtain ⟨v', hv', h'⟩ := mirrors_applyPatches e h hv
    exact ⟨v', hv', refs', hrefs, h'⟩
  have hmark : Mirrors Dropped (Disguised c engine refs) (modify (markResolved e)) (modify (markResolved e)) := by
    refine mirrors_modify fun w w' hdropped => ?_
    obtain ⟨refs', hrefs, h⟩ := hdropped
    have hmarked := disguised_markResolved h e
    by_cases he : e = c
    · subst he
      refine hmarked.of_resolved ?_ refs
      rw [markResolved]
      exact congrArg Contract.resolved (Store.contract_setContract_self _ _ h.held)
    · exact hrefs he ▸ hmarked
  exact mirrors_bind hdrop (mirrors_bind hpatch hmark)

end CallContract.Resolution
