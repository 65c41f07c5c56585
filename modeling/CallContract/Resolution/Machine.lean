import CallContract.Resolution.Inheritance

/-!
# Machine — resolution with an explicit stack

The contracts that are being resolved stand on a stack, each with what is left to do for it.  A step works on the
topmost one; where it meets a dependency that is not resolved it puts that on the stack, unless the stack has reached
its ceiling.
-/

namespace CallContract.Resolution

/-- What is left to do for a contract. -/
inductive Phase
  /-- Nothing has been done. -/
  | start
  /-- The definition that it supersedes is resolved. -/
  | expand
  /-- The references to follow. -/
  | follow (refs : List Reference)
  /-- An interface to merge, and the references to follow. -/
  | mergeThen (interface : ContractId) (ref : Reference) (refs : List Reference)

/-- A contract that is being resolved. -/
structure Frame where
  contract : ContractId
  phase : Phase

/-- What a step does to the topmost frame. -/
inductive Move
  /-- Goes on with another phase. -/
  | stay (phase : Phase)
  /-- Goes on with another phase once a dependency is resolved. -/
  | call (dependency : ContractId) (phase : Phase)
  /-- The contract is done. -/
  | leave

/-- Calls a dependency unless it is resolved. -/
def callIfNeeded (s : Store) (dependency : ContractId) (phase : Phase) : Move :=
  if (s.contract dependency).resolved then .stay phase else .call dependency phase

def move (d : Directory) (s : Store) (f : Frame) : Move :=
  match f.phase with
  | .start =>
    if (s.contract f.contract).resolved then .leave
    else match predecessor? s f.contract with
      | some p => callIfNeeded s p .expand
      | none => .stay .expand
  | .expand => .stay (.follow (expandedReferences d (s.contract f.contract)))
  | .follow [] => .leave
  | .follow (ref :: refs) => match target d s f.contract ref with
    | .predecessor p => .stay (.mergeThen p ref refs)
    | .missing => .stay (.follow refs)
    | .found i => callIfNeeded s i (.mergeThen i ref refs)
  | .mergeThen _ _ refs => .stay (.follow refs)

def effect (d : Directory) (s : Store) (f : Frame) : Action Unit :=
  match f.phase with
  | .start => pure ()
  | .expand => modify (expandGroup d f.contract)
  | .follow [] => complete f.contract
  | .follow (ref :: _) => match target d s f.contract ref with
    | .missing => modify fun w => w.warn (.missingInterface (w.store.contract f.contract).name ref.serviceName)
    | _ => pure ()
  | .mergeThen i ref _ => merge f.contract i ref

/-- The stack after a move of its topmost frame. -/
def applyMove (limit : Int) (top : Frame) (below : List Frame) (m : Move) : Action (List Frame) :=
  match m with
  | .stay phase => pure ({ top with phase } :: below)
  | .leave => pure below
  | .call dependency phase =>
    if limit ≤ below.length + 1 then do throw (.tooDeep ((← get).store.contract dependency).name limit)
    else pure ({ contract := dependency, phase := .start } :: { top with phase } :: below)

/-- One step of the machine on a stack that is not empty. -/
def stepStack (d : Directory) (limit : Int) (top : Frame) (below : List Frame) : Action (List Frame) := do
  let w ← get
  effect d w.store top
  applyMove limit top below (move d w.store top)

/-! ## Bounds

A contract declares at most `bound` references, before and after its group is expanded.  Nothing that resolution does
raises this bound, so the work that is left can be counted.
-/

-- The number of references that a contract declares or will declare.
def span (d : Directory) (c : Contract) : Nat := max c.declared.length (groupReferences d c).length

-- Every contract declares at most `bound` references.
def Fits (bound : Nat) (d : Directory) (w : Work) : Prop := ∀ c, span d (w.store.contract c) ≤ bound

-- The most references that a contract declares.
def widest (d : Directory) (s : Store) : Nat := s.contracts.toList.foldr (fun c n => max (span d c) n) 0

theorem span_le_foldr (d : Directory) {c : Contract} {cs : List Contract} (h : c ∈ cs) :
    span d c ≤ cs.foldr (fun c n => max (span d c) n) 0 := by
  induction cs with
  | nil => simp at h
  | cons k rest ih =>
    rcases List.mem_cons.1 h with rfl | h
    · exact Nat.le_max_left _ _
    · exact Nat.le_trans (ih h) (Nat.le_max_right _ _)

theorem fits_widest (d : Directory) (w : Work) : Fits (widest d w.store) d w := by
  intro c
  unfold Store.contract
  cases h : w.store.contracts[c]? with
  | none => exact Nat.zero_le _
  | some k => exact span_le_foldr d (Array.mem_toList_iff.2 (Array.mem_of_getElem? h))

/-- Whether an action keeps a property of the work, also when it fails. -/
def Keeps {α : Type} (P : Work → Prop) (a : Action α) : Prop :=
  ∀ w, P w → match a w with
    | .ok _ w' => P w'
    | .error _ w' => P w'

theorem Keeps.of_ok {α : Type} {P : Work → Prop} {a : Action α} {x : α} {w w' : Work} (ha : Keeps P a) (hw : P w)
    (h : a w = .ok x w') : P w' := by
  have hkept := ha w hw
  rwa [h] at hkept

theorem Keeps.of_error {α : Type} {P : Work → Prop} {a : Action α} {abort : Abort} {w w' : Work} (ha : Keeps P a)
    (hw : P w) (h : a w = .error abort w') : P w' := by
  have hkept := ha w hw
  rwa [h] at hkept

theorem keeps_bind {α β : Type} {P : Work → Prop} {a : Action α} {f : α → Action β} (ha : Keeps P a)
    (hf : ∀ x, Keeps P (f x)) : Keeps P (a >>= f) := by
  intro w hw
  simp only [bind, EStateM.bind]
  cases h : a w with
  | ok x w' => exact hf x w' (ha.of_ok hw h)
  | error e w' => exact ha.of_error hw h

theorem keeps_pure {α : Type} {P : Work → Prop} (x : α) : Keeps P (pure x : Action α) := fun _ hw => hw

theorem keeps_modify {P : Work → Prop} {f : Work → Work} (h : ∀ w, P w → P (f w)) : Keeps P (modify f : Action Unit) :=
  fun w hw => h w hw

-- An action that goes by the work it starts from keeps what it keeps on every work.
theorem keeps_get_bind {α : Type} {P : Work → Prop} {f : Work → Action α}
    (h : ∀ w, P w → match f w w with
      | .ok _ w' => P w'
      | .error _ w' => P w') : Keeps P (get >>= f : Action α) := fun w hw => h w hw

theorem keeps_forM {α : Type} {P : Work → Prop} {f : α → Action Unit} (h : ∀ x, Keeps P (f x)) (xs : List α) :
    Keeps P (xs.forM f) := by
  induction xs with
  | nil => exact keeps_pure ()
  | cons x rest ih => exact keeps_bind (h x) fun _ => ih

-- Changing a contract keeps a bound that the change does not raise.
theorem fits_change {bound : Nat} {d : Directory} {w : Work} (h : Fits bound d w) (c : ContractId)
    {f : Contract → Contract} (hf : ∀ k, span d k ≤ bound → span d (f k) ≤ bound) : Fits bound d (w.change c f) := by
  intro e
  by_cases he : c = e
  · subst he
    by_cases hc : c < w.store.contracts.size
    · simp only [Work.change, Store.contract_setContract_self _ _ hc]; exact hf _ (h c)
    · have : (w.store.setContract c (f (w.store.contract c))).contract c = w.store.contract c := by
        simp [Store.contract, Store.setContract, Array.setIfInBounds, hc]
      simp only [Work.change, this]; exact h c
  · simp only [Work.change, Store.contract_setContract_of_ne _ _ he]; exact h e

theorem fits_note {bound : Nat} {d : Directory} {w : Work} (h : Fits bound d w) (message : String) :
    Fits bound d (w.note message) := h

theorem fits_warn {bound : Nat} {d : Directory} {w : Work} (h : Fits bound d w) (warning : Warning) :
    Fits bound d (w.warn warning) := h

theorem fits_insert {bound : Nat} {d : Directory} {w : Work} (h : Fits bound d w) (p : Param) (c : ContractId) :
    Fits bound d { w with store := (w.store.pushParam p).insert c w.store.params.size } := by
  let s := w.store.pushParam p
  exact fits_change (w := { w with store := s }) (f := fun k => s.holding k w.store.params.size) h c fun _ hk => hk

theorem length_expandedReferences_le (d : Directory) (c : Contract) : (expandedReferences d c).length ≤ span d c := by
  unfold expandedReferences
  split
  · exact Nat.le_max_right _ _
  · exact Nat.le_max_left _ _

theorem fits_expandGroup {bound : Nat} {d : Directory} {w : Work} (h : Fits bound d w) (c : ContractId) :
    Fits bound d (expandGroup d c w) := by
  unfold expandGroup
  dsimp only
  split
  · refine fits_note (fits_change h c fun k hk => ?_) _
    exact Nat.max_le.2 ⟨Nat.le_trans (length_expandedReferences_le d _) (h c), Nat.le_trans (Nat.le_max_right _ _) hk⟩
  · exact h

theorem keeps_takeParam (bound : Nat) (d : Directory) (c : ContractId) (ref : Reference) (id : ParamId) :
    Keeps (Fits bound d) (takeParam c ref id) := by
  refine keeps_get_bind fun w hw => ?_
  dsimp only
  cases Entries.get? (w.store.param id).name (w.store.contract c).params with
  | some existing => exact hw
  | none =>
    cases inheritedCopy ref (w.store.param id) with
    | error fault => exact hw
    | ok p => exact fits_insert hw p c

theorem fits_takeProperties {bound : Nat} {d : Directory} {w : Work} (h : Fits bound d w) (c interface : ContractId) :
    Fits bound d (takeProperties c interface w) := by
  unfold takeProperties
  split
  · exact h
  · apply fits_note
    exact fits_change h c fun k hk => hk

theorem keeps_merge (bound : Nat) (d : Directory) (c interface : ContractId) (ref : Reference) :
    Keeps (Fits bound d) (merge c interface ref) :=
  keeps_bind (fun w hw => keeps_forM (keeps_takeParam bound d c ref) (w.store.contract interface).paramIds w hw)
    fun _ => keeps_modify fun _ hw => fits_takeProperties hw c interface

theorem keeps_applyPatch (bound : Nat) (d : Directory) (c : ContractId) (patch : Patch) :
    Keeps (Fits bound d) (applyPatch c patch) := by
  refine keeps_get_bind fun w hw => ?_
  dsimp only
  cases Entries.get? patch.name (w.store.contract c).params with
  | none => exact hw
  | some existing =>
    have he := fits_change (f := fun k => { k with params := Entries.erase patch.name k.params }) hw c fun k hk => hk
    simp only [set, MonadStateOf.set]
    let erased := w.change c fun k => { k with params := Entries.erase patch.name k.params }
    cases (erased.store.param existing).clone with
    | error fault => exact he
    | ok copy => exact fits_insert he (patch.apply copy) c

theorem fits_dropPredecessor {bound : Nat} {d : Directory} {w : Work} (h : Fits bound d w) (c : ContractId) :
    Fits bound d (dropPredecessor c w) := by
  refine fits_change h c fun k hk => ?_
  have hd := Nat.le_trans (Nat.le_max_left _ _) hk
  refine Nat.max_le.2 ⟨Nat.le_trans ?_ hd, Nat.le_trans (Nat.le_max_right _ _) hk⟩
  unfold withoutPredecessor
  split
  · exact List.length_filter_le _ _
  · exact Nat.le_refl _

theorem fits_markResolved {bound : Nat} {d : Directory} {w : Work} (h : Fits bound d w) (c : ContractId) :
    Fits bound d (markResolved c w) := by
  unfold markResolved
  apply fits_note
  exact fits_change h c fun k hk => hk

theorem keeps_complete (bound : Nat) (d : Directory) (c : ContractId) : Keeps (Fits bound d) (complete c) :=
  keeps_bind (keeps_modify fun _ hw => fits_dropPredecessor hw c) fun _ =>
    keeps_bind (fun w hw => keeps_forM (keeps_applyPatch bound d c) (w.store.contract c).patches w hw) fun _ =>
      keeps_modify fun _ hw => fits_markResolved hw c

theorem keeps_effect (bound : Nat) (d : Directory) (s : Store) (f : Frame) : Keeps (Fits bound d) (effect d s f) := by
  unfold effect
  split
  · exact keeps_pure ()
  · exact keeps_modify fun w hw => fits_expandGroup hw f.contract
  · exact keeps_complete bound d f.contract
  · split
    · exact keeps_modify fun w hw => fits_warn hw _
    · exact keeps_pure ()
  · exact keeps_merge bound d _ _ _

/-! ## The work that is left -/

/-- The steps that a frame takes itself, at most. -/
def Phase.steps (bound : Nat) : Phase → Nat
  | .start => 2 * bound + 3
  | .expand => 2 * bound + 2
  | .follow refs => 2 * refs.length + 1
  | .mergeThen _ _ refs => 2 * refs.length + 2

/-- A bound on the steps that are left for a stack: a step of a frame may call one dependency on the level above. -/
def potential (bound limit : Nat) : List Frame → Nat
  | [] => 0
  | f :: below => f.phase.steps bound * Nat.pow (2 * bound + 4) (limit - below.length) + potential bound limit below

/-- A phase that goes on has fewer steps left. -/
def Move.Shortens (bound : Nat) (phase : Phase) : Move → Prop
  | .stay next | .call _ next => next.steps bound < phase.steps bound
  | .leave => True

theorem shortens_callIfNeeded {bound : Nat} {phase next : Phase} (s : Store) (dependency : ContractId)
    (h : next.steps bound < phase.steps bound) : (callIfNeeded s dependency next).Shortens bound phase := by
  unfold callIfNeeded
  split <;> exact h

theorem move_shortens {bound : Nat} {d : Directory} {w : Work} (hw : Fits bound d w) (f : Frame) :
    (move d w.store f).Shortens bound f.phase := by
  obtain ⟨c, phase⟩ := f
  cases phase with
  | start =>
    simp only [move]
    split
    · trivial
    · split
      · exact shortens_callIfNeeded _ _ (by simp [Phase.steps])
      · simp [Move.Shortens, Phase.steps]
  | expand =>
    have hl := Nat.le_trans (Nat.le_max_left _ _) (hw c)
    have hr := Nat.le_trans (Nat.le_max_right _ _) (hw c)
    simp only [move, Move.Shortens, Phase.steps, expandedReferences]
    split <;> omega
  | follow refs =>
    cases refs with
    | nil => trivial
    | cons ref refs =>
      simp only [move]
      split
      · simp only [Move.Shortens, Phase.steps, List.length_cons]; omega
      · simp only [Move.Shortens, Phase.steps, List.length_cons]; omega
      · exact shortens_callIfNeeded _ _ (by simp only [Phase.steps, List.length_cons]; omega)
  | mergeThen i ref refs => simp [move, Move.Shortens, Phase.steps]

theorem potential_stay {bound limit : Nat} {f : Frame} {next : Phase} (below : List Frame)
    (h : next.steps bound < f.phase.steps bound) :
    potential bound limit ({ f with phase := next } :: below) < potential bound limit (f :: below) := by
  have hp : 0 < Nat.pow (2 * bound + 4) (limit - below.length) := Nat.pow_pos (by omega)
  have := Nat.mul_lt_mul_of_pos_right h hp
  simp only [potential]
  omega

theorem potential_call {bound limit : Nat} {f : Frame} {next : Phase} (below : List Frame) (dependency : ContractId)
    (h : next.steps bound < f.phase.steps bound) (hl : below.length + 1 < limit) :
    potential bound limit (⟨dependency, .start⟩ :: { f with phase := next } :: below)
      < potential bound limit (f :: below) := by
  obtain ⟨e, he⟩ : ∃ e, limit - below.length = e + 1 := ⟨limit - below.length - 1, by omega⟩
  have he' : limit - (below.length + 1) = e := by omega
  have hp : 0 < Nat.pow (2 * bound + 4) e := Nat.pow_pos (by omega)
  have hb : Nat.pow (2 * bound + 4) (e + 1) = Nat.pow (2 * bound + 4) e * (2 * bound + 4) := Nat.pow_succ ..
  have hn := Nat.mul_le_mul_right (Nat.pow (2 * bound + 4) (e + 1)) h
  have hs : Phase.start.steps bound = 2 * bound + 3 := rfl
  simp only [potential, List.length_cons, he, he', hs]
  rw [Nat.succ_mul] at hn
  have hc : (2 * bound + 3) * Nat.pow (2 * bound + 4) e < Nat.pow (2 * bound + 4) (e + 1) := by
    rw [hb, Nat.mul_comm]
    exact Nat.mul_lt_mul_of_pos_left (by omega) hp
  omega

theorem potential_leave (bound limit : Nat) (f : Frame) (below : List Frame) :
    potential bound limit below < potential bound limit (f :: below) := by
  have hp : 0 < Nat.pow (2 * bound + 4) (limit - below.length) := Nat.pow_pos (by omega)
  have hf : 0 < f.phase.steps bound := by cases f.phase <;> simp [Phase.steps]
  have := Nat.mul_pos hf hp
  simp only [potential]
  omega

theorem applyMove_potential {bound : Nat} {limit : Int} {top : Frame} {below stack : List Frame} {m : Move}
    {w w' : Work} (hm : m.Shortens bound top.phase) (h : applyMove limit top below m w = .ok stack w') :
    potential bound limit.toNat stack < potential bound limit.toNat (top :: below) := by
  cases m with
  | stay next => cases h; exact potential_stay below hm
  | leave => cases h; exact potential_leave bound limit.toNat top _
  | call dependency next =>
    simp only [applyMove] at h
    split at h
    · cases h
    · cases h
      exact potential_call below dependency hm (by omega)

theorem stepStack_eq (d : Directory) (limit : Int) (top : Frame) (below : List Frame) (w : Work) :
    stepStack d limit top below w
      = EStateM.bind (effect d w.store top) (fun _ => applyMove limit top below (move d w.store top)) w := rfl

theorem stepStack_potential {bound : Nat} {d : Directory} {limit : Int} {top : Frame} {below stack : List Frame}
    {w w' : Work} (hw : Fits bound d w) (h : stepStack d limit top below w = .ok stack w') :
    potential bound limit.toNat stack < potential bound limit.toNat (top :: below) := by
  rw [stepStack_eq, EStateM.bind] at h
  split at h
  · exact applyMove_potential (move_shortens hw top) h
  · cases h

theorem keeps_applyMove (bound : Nat) (d : Directory) (limit : Int) (top : Frame) (below : List Frame) (m : Move) :
    Keeps (Fits bound d) (applyMove limit top below m) := by
  cases m with
  | stay next => exact keeps_pure _
  | leave => exact keeps_pure _
  | call dependency next =>
    simp only [applyMove]
    split
    · exact fun w hw => hw
    · exact keeps_pure _

theorem keeps_stepStack (bound : Nat) (d : Directory) (limit : Int) (top : Frame) (below : List Frame) :
    Keeps (Fits bound d) (stepStack d limit top below) := fun w hw =>
  keeps_bind (keeps_effect bound d w.store top) (fun _ => keeps_applyMove bound d limit top below _) w hw

theorem stepStack_fits {bound : Nat} {d : Directory} {limit : Int} {top : Frame} {below stack : List Frame}
    {w w' : Work} (hw : Fits bound d w) (h : stepStack d limit top below w = .ok stack w') : Fits bound d w' := by
  have := keeps_stepStack bound d limit top below w hw
  rwa [h] at this

/-! ## Running -/

/-- Runs the machine until its stack is empty or a step fails. -/
def runStack (d : Directory) (limit : Int) (bound : Nat) (stack : List Frame) (w : Work) (hw : Fits bound d w) :
    EStateM.Result Abort Work Unit :=
  match stack with
  | [] => .ok () w
  | top :: below =>
    match _h : stepStack d limit top below w with
    | .ok stack w' => runStack d limit bound stack w' (stepStack_fits hw _h)
    | .error abort w' => .error abort w'
  termination_by potential bound limit.toNat stack
  decreasing_by exact stepStack_potential hw _h

/-- Resolves a contract and everything it depends on; at most `limit` resolutions are nested. -/
def resolve (d : Directory) (limit : Int) (c : ContractId) : Action Unit := fun w =>
  if (w.store.contract c).resolved then .ok () w
  else runStack d limit (widest d w.store) [⟨c, .start⟩] w (fits_widest d w)

end CallContract.Resolution
