import CallContract.Proofs.Resolution.Disguise
import CallContract.Proofs.Resolution.History
import CallContract.Proofs.Resolution.Recursion

/-!
# Grouping — a group stands for the list of its members

A contract that stands for a group follows the references to its members, and a member that is named twice is followed
twice.  A contract with another engine that declares each member once comes to the same: the two resolutions run side by
side, and where the group follows a member again the other one waits, because merging again what has been merged changes
nothing.

## Main statements

* `Similar.reaches`: a run that follows repeated references is matched by a run that follows each of them once.
* `group_means_members`: resolution gives the same contents whether a contract stands for a group or lists its members.
* `group_repeats_shared`: where a member is repeated and a parameter is shared, this can fail.
-/

namespace CallContract.Resolution

open Relation

variable {d : Directory} {limit : Int} {s s' : Store} {c e i root : ContractId} {engine : String}
  {all : List Reference} {x x' y : Config} {w w' v : Work}

/-! ## 1. References that are repeated -/

/-- The references to names that none of the seen ones has, each name once. -/
def unseen (seen refs : List Reference) : List Reference :=
  Reference.distinct (refs.filter fun ref => ref.serviceName ∉ seen.map (·.serviceName))

variable {seen followed remaining refs : List Reference} {ref : Reference}

theorem distinct_cons (ref : Reference) (refs : List Reference) :
    Reference.distinct (ref :: refs)
      = ref :: Reference.distinct (refs.filter fun r => r.serviceName ≠ ref.serviceName) := by
  rw [Reference.distinct, List.eraseDupsBy_cons, Reference.distinct]
  simp

theorem unseen_nil (refs : List Reference) : unseen [] refs = Reference.distinct refs := by
  rw [unseen, List.filter_eq_self.mpr (by simp)]

theorem unseen_cons_of_seen (h : ref.serviceName ∈ seen.map (·.serviceName)) (refs : List Reference) :
    unseen seen (ref :: refs) = unseen seen refs := by
  rw [unseen, List.filter_cons_of_neg (by simpa using h), unseen]

theorem unseen_snoc_of_seen (h : ref.serviceName ∈ seen.map (·.serviceName)) (refs : List Reference) :
    unseen (seen ++ [ref]) refs = unseen seen refs := by
  have hsame : ∀ name : String, name ∈ (seen ++ [ref]).map (·.serviceName) ↔ name ∈ seen.map (·.serviceName) := by
    intro name
    rw [List.map_append, List.mem_append, List.map_singleton, List.mem_singleton]
    exact ⟨fun hname => hname.elim id fun heq => heq ▸ h, Or.inl⟩
  simp only [unseen, hsame]

theorem unseen_cons_of_new (h : ref.serviceName ∉ seen.map (·.serviceName)) (refs : List Reference) :
    unseen seen (ref :: refs) = ref :: unseen (seen ++ [ref]) refs := by
  rw [unseen, List.filter_cons_of_pos (by simpa using h), distinct_cons, List.filter_filter, unseen]
  refine congrArg (fun rest => ref :: Reference.distinct rest) (List.filter_congr fun r _ => ?_)
  rw [Bool.eq_iff_iff]
  simp [and_comm]

-- References to one name stand for the same contract.
theorem interface?_congr {ref r : Reference} (h : r.serviceName = ref.serviceName) :
    interface? d s c r = interface? d s c ref := by
  unfold interface? target
  rw [h]

/-! ## 2. Merging again -/

theorem setParam_param (s : Store) (id : ParamId) : s.setParam id (s.param id) = s := by
  by_cases hid : id < s.params.size
  · simp [Store.setParam, Store.param, Array.setIfInBounds, hid]
  · simp [Store.setParam, Array.setIfInBounds, hid]

theorem takeParam_of_covers {id : ParamId} (h : (w.store.content c).Covers (w.store.param id)) (ref : Reference) :
    takeParam c ref id w = .ok () w := by
  obtain ⟨p, hget, hmode⟩ := h
  rw [get?_content] at hget
  obtain ⟨existing, hexisting, rfl⟩ := Option.map_eq_some_iff.mp hget
  rw [takeParam_of_some hexisting, Content.widen_of_mode hmode, setParam_param]

/-- Merging what has been absorbed does nothing at all. -/
theorem merge_of_absorbs (h : (w.store.content c).Absorbs (w.store.content i)) (ref : Reference) :
    merge c i ref w = .ok () w := by
  have hvalues : Entries.values (w.store.content i).params = (w.store.contract i).paramIds.map w.store.param :=
    Entries.values_mapValues _ _
  have hcovers : ∀ id ∈ (w.store.contract i).paramIds, (w.store.content c).Covers (w.store.param id) := fun id hid =>
    h.covers _ (hvalues ▸ List.mem_map_of_mem hid)
  have htake : ∀ ids ⊆ (w.store.contract i).paramIds, ids.forM (takeParam c ref) w = .ok () w := by
    intro ids hids
    induction ids with
    | nil => rfl
    | cons id rest ih =>
      obtain ⟨hid, hrest⟩ := List.cons_subset.mp hids
      exact (bind_of_ok (takeParam_of_covers (hcovers id hid) ref)).trans (ih hrest)
  have hnew : (newProperties (w.store.contract c) (w.store.contract i)).isEmpty = true :=
    List.isEmpty_iff.mpr h.no_new_properties
  have htaken : takeParams c i ref w = .ok () w := htake _ (List.Subset.refl _)
  rw [merge, bind_of_ok htaken]
  change EStateM.Result.ok () (takeProperties c i w) = _
  rw [takeProperties, if_pos hnew]

/-! ## 3. Two runs side by side -/

/-- The tasks of two frames that have followed the same references, the second one each name only once. -/
inductive SameTask (c : ContractId) (all : List Reference) : Frame → Frame → Prop
  | other {f : Frame} (h : f.contract ≠ c) : SameTask c all f f
  | start : SameTask c all ⟨c, .start⟩ ⟨c, .start⟩
  | expand : SameTask c all ⟨c, .expand⟩ ⟨c, .expand⟩
  | follow {followed remaining : List Reference} (h : all = followed ++ remaining) :
    SameTask c all ⟨c, .follow remaining⟩ ⟨c, .follow (unseen followed remaining)⟩
  | merge {followed remaining : List Reference} {ref : Reference} {i : ContractId}
    (h : all = followed ++ ref :: remaining) :
    SameTask c all ⟨c, .mergeThen i ref remaining⟩ ⟨c, .mergeThen i ref (unseen (followed ++ [ref]) remaining)⟩
  /-- The first frame merges again what the second one does not follow again. -/
  | again {followed remaining : List Reference} {ref : Reference} {i : ContractId}
    (h : all = followed ++ ref :: remaining) (hseen : ref.serviceName ∈ followed.map (·.serviceName)) :
    SameTask c all ⟨c, .mergeThen i ref remaining⟩ ⟨c, .follow (unseen followed remaining)⟩

/-- Two configurations whose frames have the same tasks and whose stores differ in one contract only, which in the second
one has another engine and declares each reference once. -/
structure Similar (c : ContractId) (engine : String) (all : List Reference) (x x' : Config) : Prop where
  stack : List.Forall₂ (SameTask c all) x.stack x'.stack
  store : Disguised c engine (Reference.distinct all) x.work.store x'.work.store

/-- Two moves that lead to the same tasks. -/
inductive SameMove (c : ContractId) (all : List Reference) (top top' : Frame) : Move → Move → Prop
  | stay {phase phase' : Phase} (h : SameTask c all ⟨top.contract, phase⟩ ⟨top'.contract, phase'⟩) :
    SameMove c all top top' (.stay phase) (.stay phase')
  | call {dependency : ContractId} {phase phase' : Phase}
    (h : SameTask c all ⟨top.contract, phase⟩ ⟨top'.contract, phase'⟩) :
    SameMove c all top top' (.call dependency phase) (.call dependency phase')
  | leave : SameMove c all top top' .leave .leave

theorem sameTask_start (c e : ContractId) (all : List Reference) : SameTask c all ⟨e, .start⟩ ⟨e, .start⟩ := by
  by_cases he : e = c
  · rw [he]
    exact .start
  · exact .other he

theorem sameMove_other {f : Frame} (hf : f.contract ≠ c) (m : Move) : SameMove c all f f m m := by
  cases m with
  | stay phase => exact .stay (.other hf)
  | call dependency phase => exact .call (.other hf)
  | leave => exact .leave

section

variable (h : Disguised c engine refs s s')
include h

theorem callIfNeeded_eq (e : ContractId) (phase : Phase) : callIfNeeded s' e phase = callIfNeeded s e phase := by
  rw [callIfNeeded, callIfNeeded, h.resolved]

theorem sameMove_callIfNeeded {top top' : Frame} {phase phase' : Phase}
    (htask : SameTask c all ⟨top.contract, phase⟩ ⟨top'.contract, phase'⟩) (e : ContractId) :
    SameMove c all top top' (callIfNeeded s e phase) (callIfNeeded s' e phase') := by
  rw [callIfNeeded, callIfNeeded, h.resolved]
  split
  · exact .stay htask
  · exact .call htask

theorem move_start_eq (d : Directory) (e : ContractId) : move d s' ⟨e, .start⟩ = move d s ⟨e, .start⟩ := by
  rw [move_start, move_start, h.resolved, h.predecessor?]
  cases predecessor? s e with
  | none => rfl
  | some p => simp only [callIfNeeded_eq h]

-- Other contracts than the disguised one move as they did.
theorem move_eq_of_ne (d : Directory) {f : Frame} (hf : f.contract ≠ c) : move d s' f = move d s f := by
  obtain ⟨e, phase⟩ := f
  cases phase with
  | start => exact move_start_eq h d e
  | expand =>
    change Move.stay (.follow (expandedReferences d (s'.contract e))) = .stay (.follow _)
    rw [h.others e hf]
  | follow refs =>
    cases refs with
    | nil => rfl
    | cons ref refs =>
      rw [move_follow, move_follow, h.target_eq]
      cases target d s e ref with
      | found i => exact callIfNeeded_eq h i _
      | predecessor p => rfl
      | missing => rfl
  | mergeThen i ref refs => rfl

theorem mirrors_effect_follow (d : Directory) (e : ContractId) (ref : Reference) (tail tail' : List Reference) :
    Mirrors (Disguised c engine refs) (Disguised c engine refs) (effect d s ⟨e, .follow (ref :: tail)⟩)
      (effect d s' ⟨e, .follow (ref :: tail')⟩) := by
  rw [effect_follow, effect_follow, h.target_eq]
  cases target d s e ref with
  | missing => exact mirrors_modify fun _ _ h => h
  | predecessor p => exact mirrors_pure
  | found i => exact mirrors_pure

theorem mirrors_effect (hengine : engine ≠ Contract.groupEngine) (d : Directory) (f : Frame) :
    Mirrors (Disguised c engine refs) (Disguised c engine refs) (effect d s f) (effect d s' f) := by
  obtain ⟨e, phase⟩ := f
  cases phase with
  | start => exact mirrors_pure
  | expand => exact mirrors_modify fun _ _ h => disguised_expandGroup h hengine d e
  | follow tail =>
    cases tail with
    | nil => exact mirrors_complete e
    | cons ref tail => exact mirrors_effect_follow h d e ref tail tail
  | mergeThen i ref tail => exact mirrors_merge e i ref

end

/-- A step is matched by a step whose action ends alike and whose move leads to the same tasks. -/
theorem similar_step {top top' : Frame} {below below' stack : List Frame}
    (hstore : Disguised c engine (Reference.distinct all) w.store w'.store)
    (hbelow : List.Forall₂ (SameTask c all) below below')
    (heffect : Mirrors (Disguised c engine (Reference.distinct all)) (Disguised c engine (Reference.distinct all))
      (effect d w.store top) (effect d w'.store top'))
    (hmove : SameMove c all top top' (move d w.store top) (move d w'.store top'))
    (hstep : stepStack d limit top below w = .ok stack v) :
    ∃ y', Reaches d limit ⟨top' :: below', w'⟩ y' ∧ Similar c engine all ⟨stack, v⟩ y' := by
  obtain ⟨heff, hnext⟩ := effect_of_stepStack hstep
  obtain ⟨u', heff', hu⟩ := heffect hstore heff
  have hstep' : stepStack d limit top' below' w' = _ := stepStack_of_effect heff'
  generalize move d w'.store top' = m' at hmove hstep'
  cases hnext with
  | stay hown =>
    rw [hown] at hmove
    cases hmove with
    | stay htask => exact ⟨_, .single (.mk hstep'), .cons htask hbelow, hu⟩
  | leave hown =>
    rw [hown] at hmove
    cases hmove with
    | leave => exact ⟨_, .single (.mk hstep'), hbelow, hu⟩
  | call hown hroom =>
    rw [hown] at hmove
    cases hmove with
    | call htask =>
      rw [applyMove, if_neg (hbelow.length_eq ▸ hroom)] at hstep'
      exact ⟨_, .single (.mk hstep'), .cons (sameTask_start c _ all) (.cons htask hbelow), hu⟩

/-- Whenever the contract is about to merge a repeated reference, it has absorbed what it merges. -/
def AbsorbsRepeats (c : ContractId) (all : List Reference) (x : Config) : Prop :=
  ∀ i ref followed remaining below, x.stack = ⟨c, .mergeThen i ref remaining⟩ :: below →
    all = followed ++ ref :: remaining → ref.serviceName ∈ followed.map (·.serviceName) →
    (x.work.store.content c).Absorbs (x.work.store.content i)

namespace Similar

variable {below below' stack : List Frame}

section

variable (hstore : Disguised c engine (Reference.distinct all) w.store w'.store)
  (hbelow : List.Forall₂ (SameTask c all) below below')
include hstore hbelow

theorem step_start (hengine : engine ≠ Contract.groupEngine)
    (hstep : stepStack d limit ⟨c, .start⟩ below w = .ok stack v) :
    ∃ y', Reaches d limit ⟨⟨c, .start⟩ :: below', w'⟩ y' ∧ Similar c engine all ⟨stack, v⟩ y' := by
  refine similar_step hstore hbelow (mirrors_effect hstore hengine d _) ?_ hstep
  rw [move_start, move_start, hstore.resolved, hstore.predecessor?]
  split
  · exact .leave
  · cases predecessor? w.store c with
    | none => exact .stay .expand
    | some p => exact sameMove_callIfNeeded hstore .expand p

-- Expansion gives the group all references, and the other contract has declared each of them once.
theorem step_expand (hengine : engine ≠ Contract.groupEngine) (hc : (w.store.contract c).resolved = false)
    (hall : expandedReferences d (w.store.contract c) = all)
    (hstep : stepStack d limit ⟨c, .expand⟩ below w = .ok stack v) :
    ∃ y', Reaches d limit ⟨⟨c, .expand⟩ :: below', w'⟩ y' ∧ Similar c engine all ⟨stack, v⟩ y' := by
  have hplain : isGroup (w'.store.contract c) = false := by
    rw [isGroup, hstore.same]
    simp [hengine]
  have hlisted : expandedReferences d (w'.store.contract c) = unseen [] all := by
    rw [expandedReferences, hplain, if_neg Bool.false_ne_true, hstore.declared_eq hc, unseen_nil]
  refine similar_step hstore hbelow (mirrors_effect hstore hengine d _) ?_ hstep
  change SameMove c all _ _ (.stay (.follow (expandedReferences d (w.store.contract c))))
    (.stay (.follow (expandedReferences d (w'.store.contract c))))
  rw [hall, hlisted]
  exact .stay (.follow rfl)

theorem step_new (hall : all = followed ++ ref :: remaining) (hnew : ref.serviceName ∉ followed.map (·.serviceName))
    (hstep : stepStack d limit ⟨c, .follow (ref :: remaining)⟩ below w = .ok stack v) :
    ∃ y', Reaches d limit ⟨⟨c, .follow (unseen followed (ref :: remaining))⟩ :: below', w'⟩ y' ∧
      Similar c engine all ⟨stack, v⟩ y' := by
  rw [unseen_cons_of_new hnew]
  refine similar_step hstore hbelow (mirrors_effect_follow hstore d c ref remaining _) ?_ hstep
  rw [move_follow, move_follow, hstore.target_eq]
  cases target d w.store c ref with
  | found i => exact sameMove_callIfNeeded hstore (.merge hall) i
  | predecessor p => exact .stay (.merge hall)
  | missing => exact .stay (.follow (hall.trans (List.append_cons ..)))

-- What a repeated reference stands for has been resolved when it was followed first, so that it is not called again.
theorem step_seen (hsound : Sound d s root ⟨⟨c, .follow (ref :: remaining)⟩ :: below, w⟩)
    (hrefs : expandedReferences d (s.contract c) = all) (hall : all = followed ++ ref :: remaining)
    (hseen : ref.serviceName ∈ followed.map (·.serviceName))
    (hstep : stepStack d limit ⟨c, .follow (ref :: remaining)⟩ below w = .ok stack v) :
    ∃ y', Reaches d limit ⟨⟨c, .follow (unseen followed (ref :: remaining))⟩ :: below', w'⟩ y' ∧
      Similar c engine all ⟨stack, v⟩ y' := by
  have hresult : StepResult d limit c below w (.follow (ref :: remaining)) _ := hsound.stepResult
  rw [hstep] at hresult
  rw [unseen_cons_of_seen hseen]
  refine ⟨_, .refl, ?_⟩
  cases hresult with
  | pass hheads _ hsame =>
    have hkept : Disguised c engine (Reference.distinct all) v.store w'.store := hsame ▸ hstore
    cases hheads with
    | missing =>
      rw [← unseen_snoc_of_seen hseen]
      exact ⟨.cons (.follow (hall.trans (List.append_cons ..))) hbelow, hkept⟩
    | found => exact ⟨.cons (.again hall hseen) hbelow, hkept⟩
  | call hheads hunresolved _ =>
    cases hheads with
    | found hi =>
      obtain ⟨r, hr, hname⟩ := List.mem_map.mp hseen
      rw [hsound.progress.evolves.interface?_eq, ← interface?_congr hname] at hi
      have hresolved := (hsound.onTrack List.mem_cons_self).interfaces rfl (hrefs.trans hall) r hr _ hi
      rw [hunresolved] at hresolved
      cases hresolved

theorem step_merge (hall : all = followed ++ ref :: remaining)
    (hstep : stepStack d limit ⟨c, .mergeThen i ref remaining⟩ below w = .ok stack v) :
    ∃ y', Reaches d limit ⟨⟨c, .mergeThen i ref (unseen (followed ++ [ref]) remaining)⟩ :: below', w'⟩ y' ∧
      Similar c engine all ⟨stack, v⟩ y' := by
  have htask : SameTask c all ⟨c, .follow remaining⟩ ⟨c, .follow (unseen (followed ++ [ref]) remaining)⟩ :=
    .follow (hall.trans (List.append_cons ..))
  exact similar_step hstore hbelow (mirrors_merge c i ref) (.stay htask) hstep

theorem step_again (hall : all = followed ++ ref :: remaining) (hseen : ref.serviceName ∈ followed.map (·.serviceName))
    (habsorbs : (w.store.content c).Absorbs (w.store.content i))
    (hstep : stepStack d limit ⟨c, .mergeThen i ref remaining⟩ below w = .ok stack v) :
    ∃ y', Reaches d limit ⟨⟨c, .follow (unseen followed remaining)⟩ :: below', w'⟩ y' ∧
      Similar c engine all ⟨stack, v⟩ y' := by
  have heffect : effect d w.store ⟨c, .mergeThen i ref remaining⟩ w = .ok () w := merge_of_absorbs habsorbs ref
  rw [stepStack_of_effect heffect] at hstep
  cases hstep
  refine ⟨_, .refl, .cons ?_ hbelow, hstore⟩
  rw [← unseen_snoc_of_seen hseen]
  exact .follow (hall.trans (List.append_cons ..))

end

/-- Each step is matched, by one step or by none. -/
theorem step (h : Similar c engine all x x') (hengine : engine ≠ Contract.groupEngine) (hsound : Sound d s root x)
    (hrefs : expandedReferences d (s.contract c) = all) (hrepeats : AbsorbsRepeats c all x)
    (hstep : Step d limit x y) : ∃ y', Reaches d limit x' y' ∧ Similar c engine all y y' := by
  obtain ⟨hstack, hstore⟩ := h
  cases hstep with
  | @mk top below stack w v hstep =>
    obtain ⟨stack', w'⟩ := x'
    cases hstack with
    | @cons _ top' _ below' htask hbelow =>
      cases htask with
      | other hf =>
        refine similar_step hstore hbelow (mirrors_effect hstore hengine d top) ?_ hstep
        rw [move_eq_of_ne hstore d hf]
        exact sameMove_other hf _
      | start => exact step_start hstore hbelow hengine hstep
      | expand =>
        have hc : (w.store.contract c).resolved = false := hsound.unresolved List.mem_cons_self
        exact step_expand hstore hbelow hengine hc ((hsound.progress.evolves.references_eq c hc).trans hrefs) hstep
      | @follow followed remaining hall =>
        cases remaining with
        | nil => exact similar_step hstore hbelow (mirrors_complete c) .leave hstep
        | cons ref remaining =>
          by_cases hseen : ref.serviceName ∈ followed.map (·.serviceName)
          · exact step_seen hstore hbelow hsound hrefs hall hseen hstep
          · exact step_new hstore hbelow hall hseen hstep
      | merge hall => exact step_merge hstore hbelow hall hstep
      | again hall hseen =>
        exact step_again hstore hbelow hall hseen (hrepeats _ _ _ _ _ rfl hall hseen) hstep

/-- A run in which repeated references are followed again is matched by one in which each is followed once. -/
theorem reaches (h : Similar c engine all x x') (hengine : engine ≠ Contract.groupEngine) (hsound : Sound d s root x)
    (hrefs : expandedReferences d (s.contract c) = all)
    (hrepeats : ∀ y, Reaches d limit x y → AbsorbsRepeats c all y) (hreaches : Reaches d limit x y) :
    ∃ y', Reaches d limit x' y' ∧ Similar c engine all y y' := by
  induction hreaches with
  | refl => exact ⟨x', .refl, h⟩
  | @tail y z hbefore hstep ih =>
    obtain ⟨y', hy', hsimilar⟩ := ih
    obtain ⟨z', hz', hnext⟩ := hsimilar.step hengine (hsound.reaches hbefore) hrefs (hrepeats y hbefore) hstep
    exact ⟨z', hy'.trans hz', hnext⟩

end Similar

/-! ## 4. Repeated references have been absorbed -/

-- Where no parameter is shared, whatever has been merged stays absorbed.
theorem Merging.absorbsRepeats (h : Merging d s x) (hsound : Sound d s root x)
    (hrefs : expandedReferences d (s.contract c) = all) : AbsorbsRepeats c all x := by
  intro i ref followed remaining below hstack hall hseen
  have hmem : (⟨c, .mergeThen i ref remaining⟩ : Frame) ∈ x.stack := hstack ▸ List.mem_cons_self
  obtain ⟨hinterface, -⟩ := hsound.onTrack hmem
  obtain ⟨r, hr, hname⟩ := List.mem_map.mp hseen
  rw [← interface?_congr hname] at hinterface
  exact h.absorbed _ hmem followed (ref :: remaining) rfl (hrefs.trans hall) r hr i hinterface

-- Where no name is repeated, there is nothing to absorb.
theorem absorbsRepeats_of_nodup (h : (all.map (·.serviceName)).Nodup) (x : Config) : AbsorbsRepeats c all x := by
  intro i ref followed remaining below _ hall hseen
  rw [hall, List.map_append, List.map_cons] at h
  exact absurd rfl ((List.nodup_append.mp h).2.2 _ hseen _ List.mem_cons_self)

/-! ## 5. Groups and lists -/

/-- The contract of a group with another engine, as one that declares each member once. -/
def listed (d : Directory) (engine : String) (k : Contract) : Contract :=
  { k with info := { k.info with engine }, declared := Reference.distinct (groupReferences d k) }

theorem disguised_listed (hc : c < s.contracts.size) (d : Directory) (engine : String) :
    Disguised c engine (Reference.distinct (groupReferences d (s.contract c))) s
      (s.setContract c (listed d engine (s.contract c))) where
  held := hc
  params_eq := rfl
  size_eq := Store.size_setContract s c _
  others e he := Store.contract_setContract_of_ne s _ (Ne.symm he)
  same := by
    rw [Store.contract_setContract_self s _ hc]
    rfl
  declared_eq _ := by
    rw [Store.contract_setContract_self s _ hc]
    rfl

/-- A group means the list of its members.  If a resolution goes through, it goes through too when a group has another
engine and declares its members, each once and not optional; and every contract is resolved, or not, with the same
parameters and properties.  A member may be named twice unless parameters are shared. -/
theorem group_means_members (d : Directory) (limit : Int) (root c : ContractId) (engine : String) (w v : Work)
    (hs : WellFormed d.registry w.store) (hroot : root < w.store.contracts.size)
    (hgroup : isGroup (w.store.contract c) = true) (hengine : engine ≠ Contract.groupEngine)
    (hapart : w.store.Unshared ∨ ((groupMembers d (w.store.contract c)).map (·.serviceName)).Nodup)
    (h : resolve d limit root w = .ok () v) :
    ∃ v', resolve d limit root { w with store := w.store.setContract c (listed d engine (w.store.contract c)) }
        = .ok () v' ∧
      ∀ e, v'.store.content e = v.store.content e ∧
        (v'.store.contract e).resolved = (v.store.contract e).resolved := by
  let all := groupReferences d (w.store.contract c)
  let w' : Work := { w with store := w.store.setContract c (listed d engine (w.store.contract c)) }
  have hdisguised : Disguised c engine (Reference.distinct all) w.store w'.store :=
    disguised_listed (Store.lt_of_isGroup hgroup) d engine
  cases hresolved : (w.store.contract root).resolved with
  | true =>
    rw [resolve_of_resolved hresolved] at h
    cases h
    exact ⟨w', resolve_of_resolved ((hdisguised.resolved root).trans hresolved), fun e =>
      ⟨hdisguised.content e, hdisguised.resolved e⟩⟩
  | false =>
    have hrefs : expandedReferences d (w.store.contract c) = all := by rw [expandedReferences, if_pos hgroup]
    have hsound : Sound d w.store root ⟨[⟨root, .start⟩], w⟩ := Sound.start (Progress.refl hs) hroot hresolved
    have hrepeats : ∀ y, Reaches d limit ⟨[⟨root, .start⟩], w⟩ y → AbsorbsRepeats c all y := by
      intro y hy
      rcases hapart with hunshared | hnodup
      · exact ((Merging.start (Merged.refl d hunshared)).reaches hsound hy).absorbsRepeats (hsound.reaches hy) hrefs
      · refine absorbsRepeats_of_nodup ?_ y
        simpa [all, groupReferences, Function.comp_def] using hnodup
    have hsimilar : Similar c engine all ⟨[⟨root, .start⟩], w⟩ ⟨[⟨root, .start⟩], w'⟩ :=
      ⟨.cons (sameTask_start c root all) .nil, hdisguised⟩
    have hplays := plays_resolve d limit root w
    rw [h] at hplays
    cases hplays with
    | finishes hreaches =>
      obtain ⟨⟨stack', v'⟩, hreaches', hend⟩ := hsimilar.reaches hengine hsound hrefs hrepeats hreaches
      cases hend.stack
      exact ⟨v', plays_unique (plays_resolve d limit root w') (.finishes hreaches'), fun e =>
        ⟨hend.store.content e, hend.store.resolved e⟩⟩

namespace Bundle

def params : Store :=
  (({} : Store).pushParam { name := "id" }).pushParam { name := "id", mode := .output }

def audit : Contract := { info := { name := "audit" } }

def party : Contract := { info := { name := "party" } }

def bundle : Contract :=
  { info := { name := "bundle", engine := Contract.groupEngine },
    internalGroup? := some
      [{ serviceName := "audit" }, { serviceName := "party", optional := true }, { serviceName := "audit" }] }

/-- A group that names one of its members twice. -/
def store : Store := ((params.build audit [0]).build party [1]).build bundle []

def directory : Directory where
  registry := { contracts := [("audit", 0), ("party", 1), ("bundle", 2)] }

theorem wellFormed : WellFormed directory.registry store := .of_lt (by decide) (by decide) (by decide)

theorem resolved : ∃ v, resolve directory 10 2 { store } = .ok () v ∧
    (v.store.content 2).params.map (fun e => (e.1, e.2.mode)) = [("id", .both)] := by
  rw [resolve_eq_resolveWithin rfl]
  exact ⟨_, rfl, by decide⟩

end Bundle

-- The bundle comes to have one parameter that goes both ways, whether as a group or with a list of its two members.
theorem group_means_members_sample :
    ∃ v', resolve Bundle.directory 10 2
        { store := Bundle.store.setContract 2 (listed Bundle.directory "java" (Bundle.store.contract 2)) } = .ok () v' ∧
      (v'.store.content 2).params.map (fun e => (e.1, e.2.mode)) = [("id", .both)] := by
  obtain ⟨v, hv, hmodes⟩ := Bundle.resolved
  obtain ⟨v', hv', hsame⟩ := group_means_members Bundle.directory 10 2 2 "java" { store := Bundle.store } v
    Bundle.wellFormed (by decide) (by decide) (by decide) (.inl (Store.unshared_of_lt (by decide))) hv
  refine ⟨v', hv', ?_⟩
  rw [(hsame 2).1]
  exact hmodes

namespace Bundle

def former : Contract := { info := { name := "party" }, declared := [{ serviceName := "ledger" }] }

def ledger : Contract := { info := { name := "ledger" } }

/-- The audit shares its parameter with a definition that the party supersedes. -/
def sharing : Store :=
  ((((params.build audit [0]).build former [0]).build { party with supersedes? := some 1 } []).build ledger [1]).build
    bundle []

def sharingDirectory : Directory where
  registry := { contracts := [("audit", 0), ("party", 2), ("ledger", 3), ("bundle", 4)] }

end Bundle

-- The parameter of the audit is widened after it has been merged, so that merging it again is not without effect.
theorem group_repeats_shared :
    isGroup (Bundle.sharing.contract 4) = true ∧
    ∃ v v', resolve Bundle.sharingDirectory 10 4 { store := Bundle.sharing } = .ok () v ∧
      resolve Bundle.sharingDirectory 10 4
        { store := Bundle.sharing.setContract 4 (listed Bundle.sharingDirectory "java" (Bundle.sharing.contract 4)) }
        = .ok () v' ∧
      (v.store.content 4).params.map (fun e => (e.1, e.2.mode)) = [("id", .both)] ∧
      (v'.store.content 4).params.map (fun e => (e.1, e.2.mode)) = [("id", .input)] := by
  refine ⟨by decide, ?_⟩
  rw [resolve_eq_resolveWithin rfl, resolve_eq_resolveWithin rfl]
  exact ⟨_, _, rfl, rfl, by decide, by decide⟩

end CallContract.Resolution
