import CallContract.Proofs.Naming
import CallContract.Proofs.Resolution.Actions
import CallContract.Proofs.Resolution.History
import CallContract.Proofs.Resolution.Run

/-!
# Keeping — properties of a store that merging or the whole of resolution keeps

Merging changes a store in three ways: a parameter that a contract holds is widened, a copy goes under a name that the
contract does not have, and properties are added.  Resolution also takes parameters out, puts changed copies in, and
changes what else there is about a contract.  A property of stores that survives these changes survives every merge and
every resolution, whether it goes through or is refused.
-/

namespace CallContract

/-- Every identity that a contract of a store holds has been given out. -/
def Store.AllHeld (s : Store) : Prop := ∀ c, ∀ id ∈ (s.contract c).paramIds, id < s.params.size

namespace Resolution

variable {P : Store → Prop} {s : Store} {d : Directory} {limit : Int} {w : Work}

theorem Keeps.workOf {Q : Work → Prop} {a : Action Unit} (ha : Keeps Q a) (hw : Q w) : Q (workOf (a w)) := by
  cases h : a w with
  | ok _ w' => exact ha.of_ok hw h
  | error abort w' => exact ha.of_error hw h

/-! ## 1. Runs -/

/-- What each step of the machine keeps about its configuration, and what this says of the work in which a run ends. -/
structure KeptByRuns (d : Directory) (limit : Int) (I : Config → Prop) (Q : Work → Prop) : Prop where
  step : ∀ {x y}, I x → Step d limit x y → I y
  work : ∀ {x}, I x → Q x.work
  refused : ∀ {top below v v' abort}, I ⟨top :: below, v⟩ → stepStack d limit top below v = .error abort v' → Q v'

namespace KeptByRuns

variable {I : Config → Prop} {Q : Work → Prop}

theorem reaches (h : KeptByRuns d limit I Q) {x y : Config} (hx : I x) (hreaches : Reaches d limit x y) : I y := by
  induction hreaches with
  | refl => exact hx
  | tail _ hstep ih => exact h.step ih hstep

/-- Resolution leaves what every run ends in, also where it is refused. -/
theorem resolve (h : KeptByRuns d limit I Q) {c : ContractId} (hstart : I ⟨[⟨c, .start⟩], w⟩) :
    Q (workOf (resolve d limit c w)) := by
  have hplays := plays_resolve d limit c w
  revert hplays
  cases Resolution.resolve d limit c w with
  | ok _ v =>
    intro hplays
    cases hplays with
    | finishes hreaches => exact h.work (h.reaches hstart hreaches)
  | error abort v =>
    intro hplays
    cases hplays with
    | fails hreaches hrefused => exact h.refused (h.reaches hstart hreaches) hrefused

end KeptByRuns

/-! ## 2. Merging -/

/-- What merging does to a store keeps a property. -/
structure KeptByMerging (P : Store → Prop) : Prop where
  widen : ∀ {s c key id}, P s → Entries.get? key (s.contract c).params = some id →
    ∀ p, P (s.setParam id (widen (s.param id) p))
  insert : ∀ {s c} {p : Param}, P s → Entries.get? p.name (s.contract c).params = none →
    P ((s.pushParam p).insert c s.params.size)
  addProperties : ∀ {s c}, P s →
    ∀ new, P (s.setContract c { s.contract c with properties := (s.contract c).properties ++ new })

theorem eq_of_inheritedCopy {ref : Reference} {p q : Param} (h : inheritedCopy ref p = .ok q) :
    ∃ markup, q = { p.settled markup with optional := p.optional || ref.optional } := by
  unfold inheritedCopy at h
  cases hclone : p.clone with
  | error fault =>
    rw [hclone] at h
    cases h
  | ok copy =>
    rw [hclone] at h
    cases h
    obtain ⟨-, -, markup, rfl⟩ := Param.of_build hclone
    exact ⟨markup, rfl⟩

theorem name_of_inheritedCopy {ref : Reference} {p q : Param} (h : inheritedCopy ref p = .ok q) : q.name = p.name := by
  obtain ⟨markup, rfl⟩ := eq_of_inheritedCopy h
  rfl

namespace KeptByMerging

theorem takeParam (h : KeptByMerging P) (c : ContractId) (ref : Reference) (id : ParamId) :
    Keeps (fun w => P w.store) (takeParam c ref id) := by
  apply keeps_get_bind
  intro w hw
  dsimp only
  cases hget : Entries.get? (w.store.param id).name (w.store.contract c).params with
  | some existing => exact h.widen hw hget _
  | none =>
    cases hcopy : inheritedCopy ref (w.store.param id) with
    | error fault => exact hw
    | ok p => exact h.insert hw (by rw [name_of_inheritedCopy hcopy, hget])

theorem takeParams (h : KeptByMerging P) (c interface : ContractId) (ref : Reference) :
    Keeps (fun w => P w.store) (takeParams c interface ref) := by
  apply keeps_get_bind
  intro w hw
  exact keeps_forM (h.takeParam c ref) (w.store.contract interface).paramIds w hw

theorem takeProperties (h : KeptByMerging P) (c interface : ContractId) (hw : P w.store) :
    P (takeProperties c interface w).store := by
  unfold Resolution.takeProperties
  split
  · exact hw
  · exact h.addProperties hw _

theorem merge (h : KeptByMerging P) (c interface : ContractId) (ref : Reference) :
    Keeps (fun w => P w.store) (merge c interface ref) :=
  keeps_bind (h.takeParams c interface ref) fun _ => keeps_modify fun _ hw => h.takeProperties c interface hw

end KeptByMerging

/-! ## 3. All actions -/

/-- What the actions of resolution do to a store keeps a property. -/
structure KeptByActions (P : Store → Prop) : Prop where
  widen : ∀ {s c key id}, P s → Entries.get? key (s.contract c).params = some id →
    ∀ p, P (s.setParam id (widen (s.param id) p))
  insert : ∀ {s}, P s → ∀ c p, P ((s.pushParam p).insert c s.params.size)
  remove : ∀ {s}, P s → ∀ c key, P (s.setContract c (withoutParam key (s.contract c)))
  -- What a contract declares and its properties.
  describe : ∀ {s}, P s → ∀ c declared properties, P (s.setContract c { s.contract c with declared, properties })
  mark : ∀ {s}, P s → ∀ c, P (s.setContract c { s.contract c with convertible? := none, resolved := true })

namespace KeptByActions

theorem keptByMerging (h : KeptByActions P) : KeptByMerging P where
  widen := h.widen
  insert hs _ := h.insert hs _ _
  addProperties hs _ := h.describe hs _ _ _

theorem expandGroup (h : KeptByActions P) (d : Directory) (c : ContractId) (hw : P w.store) :
    P (expandGroup d c w).store := by
  unfold Resolution.expandGroup
  dsimp only
  split
  · exact h.describe hw c _ _
  · exact hw

theorem applyPatch (h : KeptByActions P) (c : ContractId) (patch : Patch) :
    Keeps (fun w => P w.store) (applyPatch c patch) := by
  intro w hw
  cases hget : Entries.get? patch.name (w.store.contract c).params with
  | none =>
    rw [applyPatch_of_none hget]
    exact hw
  | some existing =>
    cases hclone : (w.store.param existing).clone with
    | error fault =>
      rw [applyPatch_of_error hget hclone]
      exact h.remove hw c patch.name
    | ok copy =>
      rw [applyPatch_of_some hget hclone]
      exact h.insert (h.remove hw c patch.name) c (patch.apply copy)

theorem complete (h : KeptByActions P) (c : ContractId) : Keeps (fun w => P w.store) (complete c) := by
  refine keeps_bind (keeps_modify fun w hw => h.describe hw c _ _) fun _ => keeps_bind ?_ fun _ =>
    keeps_modify fun w hw => h.mark hw c
  apply keeps_get_bind
  intro w hw
  exact keeps_forM (h.applyPatch c) (w.store.contract c).patches w hw

theorem effect (h : KeptByActions P) (d : Directory) (s : Store) (f : Frame) :
    Keeps (fun w => P w.store) (effect d s f) := by
  unfold Resolution.effect
  split
  · exact keeps_pure ()
  · exact keeps_modify fun w hw => h.expandGroup d f.contract hw
  · exact h.complete f.contract
  · split
    · exact keeps_modify fun _ hw => hw
    · exact keeps_pure ()
  · exact h.keptByMerging.merge f.contract _ _

theorem keptByRuns (h : KeptByActions P) (d : Directory) (limit : Int) :
    KeptByRuns d limit (fun x => P x.work.store) fun w => P w.store where
  step hx hstep := by
    cases hstep with
    | mk hok => exact (h.effect d _ _).of_ok hx (effect_of_stepStack hok).1
  work hx := hx
  refused hx hrefused := by
    rcases effect_of_stepStack_error hrefused with heffect | ⟨heffect, -⟩
    · exact (h.effect d _ _).of_error hx heffect
    · exact (h.effect d _ _).of_ok hx heffect

/-- Resolution keeps what its actions keep, also where it is refused. -/
theorem resolve (h : KeptByActions P) (d : Directory) (limit : Int) (c : ContractId) (hw : P w.store) :
    P (workOf (resolve d limit c w)).store :=
  (h.keptByRuns d limit).resolve hw

end KeptByActions

/-! ## 4. Identities that have been given out -/

theorem allHeld_empty : ({} : Store).AllHeld := by
  intro c id hid
  rw [Store.contract_of_size_le (Nat.zero_le c)] at hid
  cases hid

-- Only contracts that have been made hold anything.
theorem allHeld_of_lt (h : ∀ c < s.contracts.size, ∀ id ∈ (s.contract c).paramIds, id < s.params.size) : s.AllHeld :=
  fun c id hid => h c (Store.lt_of_mem_paramIds hid) id hid

theorem allHeld_setContract {c : ContractId} {k : Contract} (h : s.AllHeld)
    (hk : ∀ id ∈ k.paramIds, id < s.params.size) : (s.setContract c k).AllHeld := by
  intro e id hid
  rw [Store.contract_setContract] at hid
  split at hid
  · exact hk id hid
  · exact h e id hid

theorem allHeld_pushParam (h : s.AllHeld) (p : Param) : (s.pushParam p).AllHeld := by
  intro e id hid
  exact Nat.lt_of_lt_of_le (h e id hid) (Array.size_push _ ▸ Nat.le_succ _)

theorem allHeld_insert {c : ContractId} {id : ParamId} (h : s.AllHeld) (hid : id < s.params.size) :
    (s.insert c id).AllHeld := by
  apply allHeld_setContract h
  intro j hj
  rcases Entries.mem_values_put hj with rfl | hj
  · exact hid
  · exact h c j hj

theorem allHeld_setParam (h : s.AllHeld) (id : ParamId) (p : Param) : (s.setParam id p).AllHeld :=
  fun c j hj => Array.size_setIfInBounds.symm ▸ h c j hj

theorem allHeld_build {ids : List ParamId} (h : s.AllHeld) (k : Contract) (hids : ∀ id ∈ ids, id < s.params.size) :
    (s.build k ids).AllHeld := by
  intro e id hid
  rw [Store.build, Store.contract_pushContract] at hid
  split at hid
  · exact hids id ((Store.mem_paramIds_foldl_holding hid).resolve_left List.not_mem_nil)
  · exact h e id hid

theorem keptByActions_allHeld : KeptByActions Store.AllHeld where
  widen h _ _ := allHeld_setParam h _ _
  insert h _ p := allHeld_insert (allHeld_pushParam h p) (Array.size_push _ ▸ Nat.lt_succ_self _)
  remove h c key := allHeld_setContract h fun id hid => h c id ((Entries.values_erase_sublist key _).subset hid)
  describe h c _ _ := allHeld_setContract h (h c)
  mark h c := allHeld_setContract h (h c)

end Resolution

end CallContract
