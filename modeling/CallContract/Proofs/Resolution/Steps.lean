import CallContract.Proofs.Resolution.Dependency
import CallContract.Proofs.Resolution.Run

/-!
# Steps — what one step of the machine does

A step goes on with the next phase of its frame, calls the dependency that this phase needs, is refused that call, or
edits the contract of its frame: it expands its group, merges an interface, or completes it.  These are all the results
that a step can have while the contract on top is not resolved; in a well-formed store no other failure occurs.
-/

namespace CallContract.Resolution

variable {d : Directory} {limit : Int} {c e : ContractId}

/-! ## 1. Phases and results -/

/-- A phase goes on with another one once the dependency, if there is one, is resolved; nothing else is done. -/
inductive Heads (d : Directory) (s : Store) (c : ContractId) : Phase → Option ContractId → Phase → Prop
  | start : Heads d s c .start (predecessor? s c) .expand
  | missing {ref : Reference} {refs : List Reference} (h : interface? d s c ref = none) :
    Heads d s c (.follow (ref :: refs)) none (.follow refs)
  | found {ref : Reference} {refs : List Reference} {i : ContractId} (h : interface? d s c ref = some i) :
    Heads d s c (.follow (ref :: refs)) (some i) (.mergeThen i ref refs)

/-- The results of a step whose topmost frame belongs to an unresolved contract. -/
inductive StepResult (d : Directory) (limit : Int) (c : ContractId) (below : List Frame) (w : Work) :
    Phase → EStateM.Result Abort Work (List Frame) → Prop
  | pass {phase next : Phase} {dependency? : Option ContractId} {w' : Work}
    (heads : Heads d w.store c phase dependency? next)
    (resolved : ∀ e, dependency? = some e → (w.store.contract e).resolved = true)
    (store_eq : w'.store = w.store) : StepResult d limit c below w phase (.ok (⟨c, next⟩ :: below) w')
  | call {phase next : Phase} {e : ContractId} (heads : Heads d w.store c phase (some e) next)
    (unresolved : (w.store.contract e).resolved = false) (room : (below.length + 1 : Int) < limit) :
    StepResult d limit c below w phase (.ok (⟨e, .start⟩ :: ⟨c, next⟩ :: below) w)
  | refuse {phase next : Phase} {e : ContractId} (heads : Heads d w.store c phase (some e) next)
    (calls : move d w.store ⟨c, phase⟩ = .call e next)
    (unresolved : (w.store.contract e).resolved = false) (full : limit ≤ (below.length + 1 : Int)) :
    StepResult d limit c below w phase (.error (.tooDeep (w.store.contract e).name limit) w)
  | expand {w' : Work} (edits : Edits d.registry c w.store w'.store)
    (declared_eq : (w'.store.contract c).declared = expandedReferences d (w.store.contract c))
    (resolved_eq : (w'.store.contract c).resolved = (w.store.contract c).resolved)
    (content_eq : w'.store.content c = w.store.content c) :
    StepResult d limit c below w .expand
      (.ok (⟨c, .follow (expandedReferences d (w.store.contract c))⟩ :: below) w')
  | merge {i : ContractId} {ref : Reference} {refs : List Reference} {w' : Work}
    (edits : Edits d.registry c w.store w'.store) (same : SameStanding c w.store w'.store)
    (content_eq : w.store.Unshared →
      w'.store.content c = (w.store.content c).merge ref (w.store.content i)) :
    StepResult d limit c below w (.mergeThen i ref refs) (.ok (⟨c, .follow refs⟩ :: below) w')
  | complete {w' : Work} (edits : Edits d.registry c w.store w'.store)
    (declared_eq : (w'.store.contract c).declared
      = withoutPredecessor (predecessorName? w.store c) (w.store.contract c).declared)
    (resolved : (w'.store.contract c).resolved = true)
    (content_eq : w'.store.content c
      = (w.store.contract c).patches.foldl Content.applyPatch (w.store.content c)) :
    StepResult d limit c below w (.follow []) (.ok below w')

/-! ## 2. Every step has one of these results -/

theorem stepResult_of_resolved {below : List Frame} {w w' : Work} {phase next : Phase}
    (hheads : Heads d w.store c phase none next) (hstore : w'.store = w.store)
    (heffect : effect d w.store ⟨c, phase⟩ w = .ok () w') (hmove : move d w.store ⟨c, phase⟩ = .stay next) :
    StepResult d limit c below w phase (stepStack d limit ⟨c, phase⟩ below w) := by
  rw [stepStack_of_effect heffect, hmove]
  exact .pass hheads (fun e he => by cases he) hstore

-- A frame that needs a dependency goes on if that is resolved; otherwise it calls the dependency, or is refused.
theorem stepResult_of_call {below : List Frame} {w : Work} {phase next : Phase}
    (hheads : Heads d w.store c phase (some e) next) (heffect : effect d w.store ⟨c, phase⟩ w = .ok () w)
    (hmove : move d w.store ⟨c, phase⟩ = callIfNeeded w.store e next) :
    StepResult d limit c below w phase (stepStack d limit ⟨c, phase⟩ below w) := by
  rw [stepStack_of_effect heffect, hmove]
  cases he : (w.store.contract e).resolved with
  | true =>
    rw [callIfNeeded_of_resolved next he]
    refine .pass hheads (fun j hj => ?_) rfl
    cases hj
    exact he
  | false =>
    rw [callIfNeeded_of_unresolved next he]
    by_cases hl : limit ≤ (below.length + 1 : Int)
    · have happly : applyMove limit ⟨c, phase⟩ below (.call e next) w
          = .error (.tooDeep (w.store.contract e).name limit) w := by
        rw [applyMove, if_pos hl]
        rfl
      rw [happly]
      exact .refuse hheads (hmove.trans (callIfNeeded_of_unresolved next he)) he hl
    · have happly : applyMove limit ⟨c, phase⟩ below (.call e next) w
          = .ok (⟨e, .start⟩ :: ⟨c, next⟩ :: below) w := by
        rw [applyMove, if_neg hl]
        rfl
      rw [happly]
      exact .call hheads he (by omega)

/-- What one step of the machine does, whatever the phase of its topmost frame. -/
theorem stepStack_result {below : List Frame} {w : Work} {phase : Phase} (hs : WellFormed d.registry w.store)
    (hc : c < w.store.contracts.size) (hunresolved : (w.store.contract c).resolved = false)
    (hpredecessor : ∀ ref refs, phase = .follow (ref :: refs) →
      ∀ p, predecessor? w.store c = some p → (w.store.contract p).resolved = true)
    (hmerge : ∀ i ref refs, phase = .mergeThen i ref refs → i ≠ c) :
    StepResult d limit c below w phase (stepStack d limit ⟨c, phase⟩ below w) := by
  cases phase with
  | start =>
    have hheads : Heads d w.store c .start (predecessor? w.store c) .expand := .start
    have hmove := move_start d w.store c
    rw [hunresolved, if_neg Bool.false_ne_true] at hmove
    cases hp : predecessor? w.store c with
    | none =>
      rw [hp] at hheads hmove
      exact stepResult_of_resolved hheads rfl rfl hmove
    | some p =>
      rw [hp] at hheads hmove
      exact stepResult_of_call hheads rfl hmove
  | expand =>
    obtain ⟨hedits, hdeclared, hresolved, hcontent⟩ := expandGroup_spec (d := d) hs hc
    exact .expand hedits hdeclared hresolved hcontent
  | follow refs =>
    cases refs with
    | nil =>
      obtain ⟨w', hw', hedits, hdeclared, hresolved, hcontent⟩ := complete_spec hs hc
      have heffect : effect d w.store ⟨c, .follow []⟩ w = .ok () w' := hw'
      rw [stepStack_of_effect heffect]
      exact .complete hedits hdeclared hresolved hcontent
    | cons ref refs =>
      have hmove := move_follow d w.store c ref refs
      have heffect := effect_follow d w.store c ref refs
      cases htarget : target d w.store c ref with
      | predecessor p =>
        rw [htarget] at hmove heffect
        have hinterface : interface? d w.store c ref = some p := by rw [interface?, htarget]
        -- The reference names the superseded definition, so no look-up has to find that resolved.
        have hp : predecessor? w.store c = some p := predecessor?_of_target htarget
        have hresolved := hpredecessor ref refs rfl p hp
        refine stepResult_of_call (.found hinterface) (congrFun heffect w) (hmove.trans ?_)
        exact (callIfNeeded_of_resolved _ hresolved).symm
      | found i =>
        rw [htarget] at hmove heffect
        have hinterface : interface? d w.store c ref = some i := by rw [interface?, htarget]
        exact stepResult_of_call (.found hinterface) (congrFun heffect w) hmove
      | missing =>
        rw [htarget] at hmove heffect
        have hinterface : interface? d w.store c ref = none := by rw [interface?, htarget]
        have hw := congrFun heffect w
        exact stepResult_of_resolved (.missing hinterface) (store_warn _ w) hw hmove
  | mergeThen i ref refs =>
    obtain ⟨w', hw', hedits, hsame, hcontent⟩ := merge_spec hs hc (hmerge i ref refs rfl) ref
    have heffect : effect d w.store ⟨c, .mergeThen i ref refs⟩ w = .ok () w' := hw'
    rw [stepStack_of_effect heffect]
    refine .merge hedits hsame fun hu => hcontent (hu.nodup c) fun id hid hidc => ?_
    exact hmerge i ref refs rfl (hu.disjoint i c id hid hidc)

end CallContract.Resolution
