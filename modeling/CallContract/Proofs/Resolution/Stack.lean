import CallContract.Proofs.Resolution.Evolution
import CallContract.Proofs.Resolution.Steps

/-!
# Stack — what holds of the stack at every moment of a resolution

Each frame below the topmost one waits for the contract of the frame above it, on which its own contract depends; so
the stack, read from its bottom, is a path of dependencies, and no contract on it is resolved.  A contract may stand
on the stack more than once.  The topmost one completes only when everything to which its contract leads is resolved,
so no frame below belongs to the same contract then: the frame above such a frame would be one of those resolved.
-/

namespace CallContract.Resolution

open Relation

variable {d : Directory} {limit : Int} {s t u : Store} {c e root : ContractId} {x y : Config}

/-! ## 1. Frames on track -/

/-- The references of a contract up to the remaining ones have been followed, and what they lead to is resolved. -/
structure Followed (d : Directory) (s t : Store) (c : ContractId) (followed remaining : List Reference) : Prop where
  references_eq : expandedReferences d (s.contract c) = followed ++ remaining
  declared_eq : (t.contract c).declared = expandedReferences d (s.contract c)
  predecessor : ∀ p, predecessor? s c = some p → (t.contract p).resolved = true
  interfaces : ∀ ref ∈ followed, ∀ i, interface? d s c ref = some i → (t.contract i).resolved = true

/-- A frame stands where its phase says: the first store is the one that the references are read from. -/
def OnTrack (d : Directory) (s t : Store) (f : Frame) : Prop :=
  match f.phase with
  | .start | .expand => True
  | .follow refs => ∃ followed, Followed d s t f.contract followed refs
  | .mergeThen i ref refs =>
    interface? d s f.contract ref = some i ∧ ∃ followed, Followed d s t f.contract followed (ref :: refs)

/-- A frame waits for a contract: its phase takes for granted that the contract is resolved. -/
def Awaits (s : Store) (f : Frame) (e : ContractId) : Prop :=
  match f.phase with
  | .expand => predecessor? s f.contract = some e
  | .mergeThen i _ _ => i = e
  | .start | .follow _ => False

theorem Awaits.unique {f : Frame} (h : Awaits s f e) {i : ContractId} (hi : Awaits s f i) : e = i := by
  obtain ⟨c, phase⟩ := f
  cases phase with
  | start => exact False.elim h
  | follow refs => exact False.elim h
  | expand => exact Option.some.inj (h.symm.trans hi)
  | mergeThen j ref refs => exact h.symm.trans hi

theorem Followed.mono {followed remaining : List Reference} (h : Followed d s t c followed remaining)
    (hresolved : ∀ e, (t.contract e).resolved = true → (u.contract e).resolved = true)
    (hdeclared : (t.contract c).declared = expandedReferences d (s.contract c) →
      (u.contract c).declared = expandedReferences d (s.contract c)) :
    Followed d s u c followed remaining :=
  ⟨h.references_eq, hdeclared h.declared_eq, fun p hp => hresolved p (h.predecessor p hp),
    fun ref href i hi => hresolved i (h.interfaces ref href i hi)⟩

-- The next reference is followed once the contract for which it stands, if there is one, is resolved.
theorem Followed.snoc {followed remaining : List Reference} {ref : Reference}
    (h : Followed d s t c followed (ref :: remaining))
    (hresolved : ∀ i, interface? d s c ref = some i → (t.contract i).resolved = true) :
    Followed d s t c (followed ++ [ref]) remaining := by
  refine ⟨?_, h.declared_eq, h.predecessor, fun r hr i hi => ?_⟩
  · rw [h.references_eq, List.append_assoc]
    rfl
  · rcases List.mem_append.mp hr with hr | hr
    · exact h.interfaces r hr i hi
    · rw [List.mem_singleton.mp hr] at hi
      exact hresolved i hi

-- Once no reference is left, all to which the contract leads is resolved.
theorem Followed.leads {followed : List Reference} (h : Followed d s t c followed []) (he : Leads d s c e) :
    (t.contract e).resolved = true := by
  rcases he with hp | ⟨ref, href, hi⟩
  · exact h.predecessor e hp
  · rw [h.references_eq, List.append_nil] at href
    exact h.interfaces ref href e hi

theorem OnTrack.mono {f : Frame} (h : OnTrack d s t f)
    (hresolved : ∀ e, (t.contract e).resolved = true → (u.contract e).resolved = true)
    (hdeclared : (t.contract f.contract).declared = expandedReferences d (s.contract f.contract) →
      (u.contract f.contract).declared = expandedReferences d (s.contract f.contract)) : OnTrack d s u f := by
  obtain ⟨c, phase⟩ := f
  cases phase with
  | start => trivial
  | expand => trivial
  | follow refs =>
    obtain ⟨followed, hf⟩ := h
    exact ⟨followed, hf.mono hresolved hdeclared⟩
  | mergeThen i ref refs =>
    obtain ⟨hi, followed, hf⟩ := h
    exact ⟨hi, followed, hf.mono hresolved hdeclared⟩

-- What a frame waits for is something to which its contract leads.
theorem OnTrack.leads {f : Frame} (h : OnTrack d s t f) (he : Awaits s f e) : Leads d s f.contract e := by
  obtain ⟨c, phase⟩ := f
  cases phase with
  | start => exact False.elim he
  | follow refs => exact False.elim he
  | expand => exact Or.inl he
  | mergeThen i ref refs =>
    obtain ⟨hi, followed, hf⟩ := h
    have hmem : ref ∈ expandedReferences d (s.contract c) := by
      rw [hf.references_eq]
      exact List.mem_append_right followed List.mem_cons_self
    cases he
    exact Or.inr ⟨ref, hmem, hi⟩

-- A frame that goes on stays on track, and then waits for the dependency that it needed and for nothing else.
theorem OnTrack.heads {phase next : Phase} {dependency? : Option ContractId} (h : OnTrack d s t ⟨c, phase⟩)
    (hevolves : Evolves d s t) (hheads : Heads d t c phase dependency? next) :
    OnTrack d s t ⟨c, next⟩ ∧ ∀ e, Awaits s ⟨c, next⟩ e ↔ dependency? = some e := by
  cases hheads with
  | start =>
    refine ⟨trivial, fun e => ?_⟩
    rw [hevolves.predecessor?_eq c]
    exact Iff.rfl
  | missing hi =>
    rw [hevolves.interface?_eq] at hi
    obtain ⟨followed, hf⟩ := h
    refine ⟨⟨_, hf.snoc fun i hi' => ?_⟩, fun e => ⟨False.elim, fun he => by cases he⟩⟩
    rw [hi] at hi'
    cases hi'
  | found hi =>
    rw [hevolves.interface?_eq] at hi
    exact ⟨⟨hi, h⟩, fun e => Option.some_inj.symm⟩

/-- What holds of each frame on the stack: its contract is one of the store and unresolved, and it is on track. -/
structure Stands (d : Directory) (s t : Store) (f : Frame) : Prop where
  held : f.contract < s.contracts.size
  unresolved : (t.contract f.contract).resolved = false
  onTrack : OnTrack d s t f

theorem Stands.mono {f : Frame} (h : Stands d s t f) (hevolves : Evolves d t u)
    (hunresolved : (u.contract f.contract).resolved = false)
    (hdeclared : (t.contract f.contract).declared = expandedReferences d (s.contract f.contract) →
      (u.contract f.contract).declared = expandedReferences d (s.contract f.contract)) : Stands d s u f :=
  ⟨h.held, hunresolved, h.onTrack.mono (fun _ => hevolves.resolved) hdeclared⟩

/-! ## 2. The invariant -/

/-- What holds of every configuration of a resolution of the root: the first store is one from which resolutions have
led to the store at hand. -/
structure Sound (d : Directory) (s : Store) (root : ContractId) (x : Config) : Prop where
  progress : Progress d s x.work.store
  stands : ∀ f ∈ x.stack, Stands d s x.work.store f
  waiting : x.stack.IsChain fun above f => Awaits s f above.contract
  ready : ∀ f ∈ x.stack.head?, ∀ e, Awaits s f e → (x.work.store.contract e).resolved = true
  anchored : x.stack ≠ [] → (x.stack.map Frame.contract).getLast? = some root
  done : x.stack = [] → (x.work.store.contract root).resolved = true

theorem exists_above {α : Type} {rel : α → α → Prop} {a b : α} {l : List α} (h : (a :: l).IsChain rel) (hb : b ∈ l) :
    ∃ above ∈ a :: l, rel above b := by
  induction l generalizing a with
  | nil => cases hb
  | cons x rest ih =>
    rw [List.isChain_cons_cons] at h
    rcases List.mem_cons.mp hb with rfl | hb
    · exact ⟨a, List.mem_cons_self, h.1⟩
    · obtain ⟨above, habove, hrel⟩ := ih h.2 hb
      exact ⟨above, List.mem_cons_of_mem a habove, hrel⟩

namespace Sound

theorem start {w : Work} (h : Progress d s w.store) (hroot : root < s.contracts.size)
    (hunresolved : (w.store.contract root).resolved = false) : Sound d s root ⟨[⟨root, .start⟩], w⟩ where
  progress := h
  stands f hf := by
    rw [List.mem_singleton.mp hf]
    exact ⟨hroot, hunresolved, trivial⟩
  waiting := List.isChain_singleton _
  ready f hf e he := by
    cases hf
    exact False.elim he
  anchored _ := rfl
  done hnil := by cases hnil

theorem unresolved {f : Frame} (h : Sound d s root x) (hf : f ∈ x.stack) :
    (x.work.store.contract f.contract).resolved = false := (h.stands f hf).unresolved

theorem lt_size {f : Frame} (h : Sound d s root x) (hf : f ∈ x.stack) : f.contract < x.work.store.contracts.size :=
  h.progress.evolves.size_eq ▸ (h.stands f hf).held

theorem onTrack {f : Frame} (h : Sound d s root x) (hf : f ∈ x.stack) : OnTrack d s x.work.store f :=
  (h.stands f hf).onTrack

-- The contract of a frame depends on the contract of the frame above.
theorem depends {above f : Frame} (h : Sound d s root x) (habove : above ∈ x.stack)
    (hf : f ∈ x.stack) (hawaits : Awaits s f above.contract) : Depends d s f.contract above.contract where
  from_unresolved := h.progress.evolves.unresolved (h.unresolved hf)
  to_unresolved := h.progress.evolves.unresolved (h.unresolved habove)
  leads := (h.onTrack hf).leads hawaits

/-- Below the topmost frame no frame belongs to a contract that leads to resolved ones only. -/
theorem contract_ne_of_leads {top f : Frame} {below : List Frame} {w : Work}
    (h : Sound d s root ⟨top :: below, w⟩) (hc : ∀ e, Leads d s c e → (w.store.contract e).resolved = true)
    (hf : f ∈ below) : f.contract ≠ c := by
  intro hfc
  -- The frame above waits to be resolved, and it is something to which the contract leads.
  obtain ⟨above, habove, hawaits⟩ := exists_above h.waiting hf
  have hresolved := hc above.contract (hfc ▸ (h.onTrack (List.mem_cons_of_mem top hf)).leads hawaits)
  exact ne_of_resolved hresolved (h.unresolved habove) rfl

theorem stepResult {below : List Frame} {w : Work} {phase : Phase}
    (h : Sound d s root ⟨⟨c, phase⟩ :: below, w⟩) :
    StepResult d limit c below w phase (stepStack d limit ⟨c, phase⟩ below w) := by
  have hunresolved : (w.store.contract c).resolved = false := h.unresolved List.mem_cons_self
  have hc : c < w.store.contracts.size := h.lt_size List.mem_cons_self
  have htrack : OnTrack d s w.store ⟨c, phase⟩ := h.onTrack List.mem_cons_self
  refine stepStack_result h.progress.wellFormed hc hunresolved ?_ ?_
  · rintro ref refs rfl p hp
    obtain ⟨followed, hf⟩ := htrack
    rw [h.progress.evolves.predecessor?_eq] at hp
    exact hf.predecessor p hp
  · rintro i ref refs rfl
    have hresolved : (w.store.contract i).resolved = true := h.ready _ rfl i rfl
    exact ne_of_resolved hresolved hunresolved

/-! ## 3. One step -/

-- What the frames wait for does not change with the phase of the frame on top.
theorem waiting_next {below : List Frame} {w : Work} {phase : Phase} (h : Sound d s root ⟨⟨c, phase⟩ :: below, w⟩)
    (next : Phase) : (⟨c, next⟩ :: below : List Frame).IsChain fun above f => Awaits s f above.contract :=
  List.IsChain.imp_head (fun {f} (hf : Awaits s f c) => hf) h.waiting

-- The frame on top goes on with its next phase after an edit that leaves its contract unresolved.
theorem goOn {below : List Frame} {w w' : Work} {phase next : Phase} (h : Sound d s root ⟨⟨c, phase⟩ :: below, w⟩)
    (hedits : Edits d.registry c w.store w'.store) (hunresolved : (w'.store.contract c).resolved = false)
    (hrefs : expandedReferences d (w'.store.contract c) = expandedReferences d (w.store.contract c))
    (hdeclared : (w.store.contract c).declared = expandedReferences d (s.contract c) →
      (w'.store.contract c).declared = expandedReferences d (s.contract c))
    (htrack : OnTrack d s w'.store ⟨c, next⟩)
    (hready : ∀ e, Awaits s ⟨c, next⟩ e → (w'.store.contract e).resolved = true) :
    Sound d s root ⟨⟨c, next⟩ :: below, w'⟩ := by
  have hc : (w.store.contract c).resolved = false := h.unresolved List.mem_cons_self
  have hevolves : Evolves d w.store w'.store := Evolves.of_edits hedits hc fun _ => hrefs
  refine ⟨h.progress.edit hedits hc hunresolved hrefs, fun f hf => ?_, h.waiting_next next, ?_,
    fun _ => h.anchored (List.cons_ne_nil _ _), fun hnil => absurd hnil (List.cons_ne_nil _ _)⟩
  · rcases List.mem_cons.mp hf with rfl | hf
    · exact ⟨(h.stands ⟨c, phase⟩ List.mem_cons_self).held, hunresolved, htrack⟩
    · have hstands := h.stands f (List.mem_cons_of_mem _ hf)
      -- A frame further down may belong to the same contract, which declares the same references as before.
      by_cases hfc : f.contract = c
      · refine hstands.mono hevolves ?_ ?_
        · rw [hfc]
          exact hunresolved
        · rw [hfc]
          exact hdeclared
      · refine hstands.mono hevolves ?_ ?_
        · rw [hedits.others f.contract hfc]
          exact hstands.unresolved
        · rw [hedits.others f.contract hfc]
          exact id
  · intro f hf e he
    cases hf
    exact hready e he

theorem pass {below : List Frame} {w w' : Work} {phase next : Phase} {dependency? : Option ContractId}
    (h : Sound d s root ⟨⟨c, phase⟩ :: below, w⟩) (hheads : Heads d w.store c phase dependency? next)
    (hresolved : ∀ e, dependency? = some e → (w.store.contract e).resolved = true) (hstore : w'.store = w.store) :
    Sound d s root ⟨⟨c, next⟩ :: below, w'⟩ := by
  have hunresolved : (w.store.contract c).resolved = false := h.unresolved List.mem_cons_self
  obtain ⟨htrack, hawaits⟩ := (h.onTrack List.mem_cons_self).heads h.progress.evolves hheads
  have hedits : Edits d.registry c w.store w'.store := by
    rw [hstore]
    exact Edits.refl c h.progress.wellFormed
  refine h.goOn hedits ?_ ?_ ?_ ?_ fun e he => ?_
  · rw [hstore]
    exact hunresolved
  · rw [hstore]
  · rw [hstore]
    exact id
  · rw [hstore]
    exact htrack
  · rw [hstore]
    exact hresolved e ((hawaits e).mp he)

theorem call {below : List Frame} {w : Work} {phase next : Phase} (h : Sound d s root ⟨⟨c, phase⟩ :: below, w⟩)
    (hheads : Heads d w.store c phase (some e) next) (hunresolved : (w.store.contract e).resolved = false) :
    Sound d s root ⟨⟨e, .start⟩ :: ⟨c, next⟩ :: below, w⟩ := by
  obtain ⟨htrack, hawaits⟩ := (h.onTrack List.mem_cons_self).heads h.progress.evolves hheads
  have hawaited : Awaits s ⟨c, next⟩ e := (hawaits e).mpr rfl
  have hleads : Leads d w.store c e :=
    (h.progress.evolves.leads_iff (h.unresolved List.mem_cons_self)).mpr (htrack.leads hawaited)
  have he : e < s.contracts.size := h.progress.evolves.size_eq ▸ hleads.lt h.progress.wellFormed
  refine ⟨h.progress, fun f hf => ?_, ?_, ?_, fun _ => h.anchored (List.cons_ne_nil _ _),
    fun hnil => absurd hnil (List.cons_ne_nil _ _)⟩
  · rcases List.mem_cons.mp hf with rfl | hf
    · exact ⟨he, hunresolved, trivial⟩
    · rcases List.mem_cons.mp hf with rfl | hf
      · have hstands := h.stands ⟨c, phase⟩ List.mem_cons_self
        exact ⟨hstands.held, hstands.unresolved, htrack⟩
      · exact h.stands f (List.mem_cons_of_mem _ hf)
  · exact List.isChain_cons_cons.mpr ⟨hawaited, h.waiting_next next⟩
  · intro f hf j hj
    cases hf
    exact False.elim hj

-- Expansion of a group, after which all references are there to be followed.
theorem expand {below : List Frame} {w w' : Work} (h : Sound d s root ⟨⟨c, .expand⟩ :: below, w⟩)
    (hedits : Edits d.registry c w.store w'.store)
    (hdeclared : (w'.store.contract c).declared = expandedReferences d (w.store.contract c))
    (hresolved : (w'.store.contract c).resolved = (w.store.contract c).resolved) :
    Sound d s root ⟨⟨c, .follow (expandedReferences d (w.store.contract c))⟩ :: below, w'⟩ := by
  have hunresolved : (w.store.contract c).resolved = false := h.unresolved List.mem_cons_self
  have hrefs : expandedReferences d (w.store.contract c) = expandedReferences d (s.contract c) :=
    h.progress.evolves.references_eq c hunresolved
  have hkept := expandedReferences_expanded hedits.info_eq hedits.group_eq hdeclared
  have hevolves : Evolves d w.store w'.store := Evolves.of_edits hedits hunresolved fun _ => hkept
  refine h.goOn hedits (hresolved.trans hunresolved) hkept (fun _ => hdeclared.trans hrefs) ?_ fun e => False.elim
  refine ⟨[], hrefs.symm, hdeclared.trans hrefs, fun p hp => ?_, fun ref href => by cases href⟩
  exact hevolves.resolved (h.ready ⟨c, .expand⟩ rfl p hp)

theorem merge {below : List Frame} {w w' : Work} {i : ContractId} {ref : Reference} {refs : List Reference}
    (h : Sound d s root ⟨⟨c, .mergeThen i ref refs⟩ :: below, w⟩) (hedits : Edits d.registry c w.store w'.store)
    (hsame : SameStanding c w.store w'.store) : Sound d s root ⟨⟨c, .follow refs⟩ :: below, w'⟩ := by
  have hunresolved : (w.store.contract c).resolved = false :=
    h.unresolved List.mem_cons_self
  have hkept := expandedReferences_congr (d := d) hedits.info_eq hedits.group_eq hsame.declared_eq
  have hevolves : Evolves d w.store w'.store := Evolves.of_sameStanding hedits hunresolved hsame
  have hi : (w'.store.contract i).resolved = true :=
    hevolves.resolved (h.ready ⟨c, .mergeThen i ref refs⟩ rfl i rfl)
  obtain ⟨hinterface, followed, hf⟩ := h.onTrack List.mem_cons_self
  refine h.goOn hedits (hsame.resolved_eq.trans hunresolved) hkept (fun hd => hsame.declared_eq.trans hd) ?_
    fun e => False.elim
  have hmoved := hf.mono (fun e => hevolves.resolved) fun hd => hsame.declared_eq.trans hd
  refine ⟨followed ++ [ref], hmoved.snoc fun j hj => ?_⟩
  rw [hinterface] at hj
  cases hj
  exact hi

/-- Completion of the contract on top: the frames below it, which belong to other contracts, stay as they are. -/
theorem complete {below : List Frame} {w w' : Work} (h : Sound d s root ⟨⟨c, .follow []⟩ :: below, w⟩)
    (hedits : Edits d.registry c w.store w'.store)
    (hdeclared : (w'.store.contract c).declared
      = withoutPredecessor (predecessorName? w.store c) (w.store.contract c).declared)
    (hresolved : (w'.store.contract c).resolved = true) : Sound d s root ⟨below, w'⟩ := by
  have hunresolved : (w.store.contract c).resolved = false := h.unresolved List.mem_cons_self
  have hevolves : Evolves d w.store w'.store :=
    Evolves.of_edits hedits hunresolved fun hu => by rw [hresolved] at hu; cases hu
  obtain ⟨followed, hf⟩ := h.onTrack List.mem_cons_self
  have hleads : ∀ e, Leads d s c e → (w.store.contract e).resolved = true := fun e he => hf.leads he
  have hother : ∀ f ∈ below, w'.store.contract f.contract = w.store.contract f.contract := fun f hmem =>
    hedits.others f.contract (h.contract_ne_of_leads hleads hmem)
  refine ⟨?_, fun f hmem => ?_, h.waiting.tail, ?_, ?_, ?_⟩
  · refine h.progress.complete hedits hunresolved hresolved hleads ?_
    rw [hdeclared, h.progress.evolves.predecessorName?_eq, hf.declared_eq]
  · have hstands := h.stands f (List.mem_cons_of_mem _ hmem)
    refine hstands.mono hevolves ?_ ?_
    · rw [hother f hmem]
      exact hstands.unresolved
    · rw [hother f hmem]
      exact id
  · intro f hmem e he
    -- The frame below has waited for the contract that is complete now, and for no other one.
    have hawaits : Awaits s f c := h.waiting.rel_head? hmem
    rw [he.unique hawaits]
    exact hresolved
  · intro hne
    rw [← h.anchored (List.cons_ne_nil _ _), List.map_cons, List.getLast?_cons_of_ne_nil (mt List.map_eq_nil_iff.mp hne)]
  · rintro rfl
    have hroot : some c = some root := h.anchored (List.cons_ne_nil _ _)
    rw [← Option.some.inj hroot]
    exact hresolved

/-- The invariant is kept by each step. -/
theorem step (h : Sound d s root x) (hstep : Step d limit x y) : Sound d s root y := by
  cases hstep with
  | @mk top below stack w w' hstep =>
    obtain ⟨c, phase⟩ := top
    have hresult : StepResult d limit c below w phase (stepStack d limit ⟨c, phase⟩ below w) := h.stepResult
    rw [hstep] at hresult
    cases hresult with
    | pass hheads hresolved hstore => exact h.pass hheads hresolved hstore
    | call hheads hunresolved _ => exact h.call hheads hunresolved
    | expand hedits hdeclared hresolved _ => exact h.expand hedits hdeclared hresolved
    | merge hedits hsame _ => exact h.merge hedits hsame
    | complete hedits hdeclared hresolved _ => exact h.complete hedits hdeclared hresolved

/-- The invariant is kept along every run. -/
theorem reaches (h : Sound d s root x) (hreaches : Reaches d limit x y) : Sound d s root y := by
  induction hreaches with
  | refl => exact h
  | tail _ hstep ih => exact ih.step hstep

/-! ## 4. Refusals -/

-- From the bottom of the stack to its top every contract depends on the next one.
theorem isPath (h : Sound d s root x) : IsPath d s (x.stack.map Frame.contract).reverse := by
  rw [IsPath, List.isChain_reverse, List.isChain_map]
  exact h.waiting.imp_of_mem_imp fun above f habove hf hawaits => h.depends habove hf hawaits

/-- A step fails only because it calls an unresolved contract, on which the one on top depends, and the stack has reached
the ceiling; the store stays as it is then. -/
theorem refused {top : Frame} {below : List Frame} {w w' : Work} {abort : Abort}
    (h : Sound d s root ⟨top :: below, w⟩) (hfails : stepStack d limit top below w = .error abort w') :
    w' = w ∧ limit ≤ (below.length + 1 : Int) ∧ ∃ e next, abort = .tooDeep (w.store.contract e).name limit ∧
      move d w.store top = .call e next ∧ (w.store.contract e).resolved = false ∧ Depends d s top.contract e := by
  obtain ⟨c, phase⟩ := top
  have hresult : StepResult d limit c below w phase (stepStack d limit ⟨c, phase⟩ below w) := h.stepResult
  rw [hfails] at hresult
  cases hresult with
  | @refuse _ next e hheads hcalls hunresolved hfull =>
    have hevolves := h.progress.evolves
    obtain ⟨htrack, hawaits⟩ := (h.onTrack List.mem_cons_self).heads hevolves hheads
    have hdepends : Depends d s c e :=
      ⟨hevolves.unresolved (h.unresolved List.mem_cons_self), hevolves.unresolved hunresolved,
        htrack.leads ((hawaits e).mpr rfl)⟩
    exact ⟨rfl, hfull, e, next, rfl, hcalls, hunresolved, hdepends⟩

end Sound

end CallContract.Resolution
