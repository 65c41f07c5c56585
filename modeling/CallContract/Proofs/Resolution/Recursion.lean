import CallContract.Proofs.Resolution.Run
import CallContract.Proofs.Resolution.Actions
import CallContract.Resolution.Recursive

/-!
# Recursion — the machine does what plain recursion does

A call of the recursion is played by the machine from the moment at which a frame is pushed to the moment at which it
leaves the stack; the frames below stay as they are.  The levels that the recursion has to go are what the ceiling
leaves above the stack.  Main statement: resolution with a stack and resolution by recursion are the same action.
-/

namespace CallContract.Resolution

open Relation

variable {d : Directory} {limit : Int}

/-! ## 1. Visiting a dependency -/

-- A frame whose action stands for one step plays that action.
theorem plays_stay {top : Frame} {below : List Frame} {next : Phase} {a : Action Unit} {w : Work}
    (heffect : effect d w.store top w = a w) (hmove : move d w.store top = .stay next) :
    Plays d limit ⟨top :: below, w⟩ ({ top with phase := next } :: below) (a w) := by
  rw [← heffect]
  cases h : effect d w.store top w with
  | ok _ w' => exact .finishes (.single (step_of_stay h hmove))
  | error abort w' => exact .fails .refl (stepStack_of_effect_error h)

/-- Whatever a frame on top of some others calls, the machine plays the visit of it and comes back to the frame. -/
def PlaysVisits (d : Directory) (limit : Int) (below : List Frame) (visit : ContractId → Action Unit) : Prop :=
  ∀ (f : Frame) (next : Phase) (dependency : ContractId) (w : Work),
    (w.store.contract dependency).resolved = false → effect d w.store f w = .ok () w →
    move d w.store f = .call dependency next →
    Plays d limit ⟨f :: below, w⟩ ({ f with phase := next } :: below) (visit dependency w)

theorem plays_visitIfNeeded {below : List Frame} {visit : ContractId → Action Unit}
    (hvisit : PlaysVisits d limit below visit) {f : Frame} {next : Phase} {dependency : ContractId} {w : Work}
    (heffect : effect d w.store f w = .ok () w) (hmove : move d w.store f = callIfNeeded w.store dependency next) :
    Plays d limit ⟨f :: below, w⟩ ({ f with phase := next } :: below) (visitIfNeeded visit dependency w) := by
  have hv : visitIfNeeded visit dependency w
      = if (w.store.contract dependency).resolved then .ok () w else visit dependency w := by
    change (if (w.store.contract dependency).resolved then (pure () : Action Unit) else visit dependency) w = _
    split <;> rfl
  rw [hv]
  cases h : (w.store.contract dependency).resolved with
  | true =>
    rw [callIfNeeded_of_resolved next h] at hmove
    exact plays_stay (a := pure ()) heffect hmove
  | false =>
    rw [callIfNeeded_of_unresolved next h] at hmove
    exact hvisit f next dependency w h heffect hmove

/-! ## 2. One contract -/

theorem declared_expandGroup (d : Directory) (c : ContractId) (w : Work) :
    ((expandGroup d c w).store.contract c).declared = expandedReferences d (w.store.contract c) := by
  rw [expandGroup]
  by_cases h : isGroup (w.store.contract c) = true
  · simp only [if_pos h, store_note, Work.change]
    rw [Store.contract_setContract_self _ _ (Store.lt_of_isGroup h)]
  · rw [if_neg h, expandedReferences, if_neg h]

/-- The visit of the superseded definition, if there is one. -/
def visitPredecessor (visit : ContractId → Action Unit) (c : ContractId) : Action Unit := fun w =>
  match predecessor? w.store c with
  | some p => visitIfNeeded visit p w
  | none => .ok () w

/-- Follows the references that a contract declares. -/
def followDeclared (visit : ContractId → Action Unit) (d : Directory) (c : ContractId) : Action Unit := fun w =>
  (w.store.contract c).declared.forM (followReference visit d c) w

theorem resolveWith_eq (visit : ContractId → Action Unit) (d : Directory) (c : ContractId) :
    resolveWith visit d c = (do
      visitPredecessor visit c
      modify (expandGroup d c)
      followDeclared visit d c
      complete c) := by
  funext w
  change _ = EStateM.bind (visitPredecessor visit c) _ w
  rw [EStateM.bind, visitPredecessor, resolveWith]
  change (match predecessor? w.store c with | some p => _ | none => _ : Action Unit) w = _
  cases h : predecessor? w.store c <;> rfl

section Contract

variable {below : List Frame} {visit : ContractId → Action Unit} {c : ContractId} {w : Work}

theorem plays_visitPredecessor (hvisit : PlaysVisits d limit below visit) (hc : (w.store.contract c).resolved = false) :
    Plays d limit ⟨⟨c, .start⟩ :: below, w⟩ (⟨c, .expand⟩ :: below) (visitPredecessor visit c w) := by
  have hmove : move d w.store ⟨c, .start⟩ = match predecessor? w.store c with
      | some p => callIfNeeded w.store p .expand
      | none => .stay .expand := by
    rw [move, hc]
    rfl
  rw [visitPredecessor]
  cases h : predecessor? w.store c with
  | none =>
    rw [h] at hmove
    exact plays_stay (a := pure ()) rfl hmove
  | some p =>
    rw [h] at hmove
    exact plays_visitIfNeeded hvisit rfl hmove

theorem plays_followReference (hvisit : PlaysVisits d limit below visit) (ref : Reference) (refs : List Reference) :
    Plays d limit ⟨⟨c, .follow (ref :: refs)⟩ :: below, w⟩ (⟨c, .follow refs⟩ :: below)
      (followReference visit d c ref w) := by
  have hmerge : ∀ (i : ContractId) (v : Work), Plays d limit ⟨⟨c, .mergeThen i ref refs⟩ :: below, v⟩
      (⟨c, .follow refs⟩ :: below) (merge c i ref v) :=
    fun i v => plays_stay rfl rfl
  rw [followReference, get_bind]
  cases h : target d w.store c ref with
  | predecessor p =>
    have hmove : move d w.store ⟨c, .follow (ref :: refs)⟩ = .stay (.mergeThen p ref refs) := by rw [move_follow, h]
    have heffect : effect d w.store ⟨c, .follow (ref :: refs)⟩ w = .ok () w := by
      rw [effect_follow, h]
      rfl
    exact plays_of_step (step_of_stay heffect hmove) (hmerge p w)
  | missing =>
    have hmove : move d w.store ⟨c, .follow (ref :: refs)⟩ = .stay (.follow refs) := by rw [move_follow, h]
    refine plays_stay ?_ hmove
    rw [effect_follow, h]
  | found i =>
    have hmove : move d w.store ⟨c, .follow (ref :: refs)⟩ = callIfNeeded w.store i (.mergeThen i ref refs) := by
      rw [move_follow, h]
    have heffect : effect d w.store ⟨c, .follow (ref :: refs)⟩ w = .ok () w := by
      rw [effect_follow, h]
      rfl
    exact plays_bind (plays_visitIfNeeded hvisit heffect hmove) fun v _ => hmerge i v

theorem plays_forM_followReference (hvisit : PlaysVisits d limit below visit) (refs : List Reference) :
    Plays d limit ⟨⟨c, .follow refs⟩ :: below, w⟩ (⟨c, .follow []⟩ :: below)
      (refs.forM (followReference visit d c) w) := by
  induction refs generalizing w with
  | nil => exact .finishes .refl
  | cons ref refs ih => exact plays_bind (plays_followReference hvisit ref refs) fun v _ => ih

theorem plays_complete :
    Plays d limit ⟨⟨c, .follow []⟩ :: below, w⟩ below (complete c w) := by
  have heffect : effect d w.store ⟨c, .follow []⟩ w = complete c w := rfl
  cases h : complete c w with
  | ok _ w' =>
    have hstep : stepStack d limit ⟨c, .follow []⟩ below w = .ok below w' := by
      rw [stepStack_of_effect (heffect.trans h)]
      rfl
    exact .finishes (.single (.mk hstep))
  | error abort w' => exact .fails .refl (stepStack_of_effect_error (heffect.trans h))

-- The machine plays the resolution of one contract, given that it plays the visits of its dependencies.
theorem plays_resolveWith (hvisit : PlaysVisits d limit below visit) (hc : (w.store.contract c).resolved = false) :
    Plays d limit ⟨⟨c, .start⟩ :: below, w⟩ below (resolveWith visit d c w) := by
  rw [resolveWith_eq]
  refine plays_bind (plays_visitPredecessor hvisit hc) fun v _ => ?_
  have hexpand : Plays d limit ⟨⟨c, .expand⟩ :: below, v⟩
      (⟨c, .follow (expandedReferences d (v.store.contract c))⟩ :: below)
      ((modify (expandGroup d c) : Action Unit) v) := plays_stay rfl rfl
  refine plays_bind hexpand fun u hu => ?_
  cases hu
  have hfollow : Plays d limit ⟨⟨c, .follow (expandedReferences d (v.store.contract c))⟩ :: below, expandGroup d c v⟩
      (⟨c, .follow []⟩ :: below) (followDeclared visit d c (expandGroup d c v)) := by
    rw [followDeclared, declared_expandGroup]
    exact plays_forM_followReference hvisit _
  exact plays_bind hfollow fun u _ => plays_complete

end Contract

/-! ## 3. All levels -/

/-- What the recursion does with a dependency when it has a number of levels to go. -/
def visitWithin (d : Directory) (limit : Int) : Nat → ContractId → Action Unit
  | 0 => fun dependency w => .error (.tooDeep (w.store.contract dependency).name limit) w
  | levels + 1 => resolveWithin d limit levels

theorem resolveWithin_eq (d : Directory) (limit : Int) (levels : Nat) :
    resolveWithin d limit levels = resolveWith (visitWithin d limit levels) d := by
  cases levels <;> rfl

-- The machine plays the recursion when the ceiling leaves it as many levels above the stack.
theorem plays_resolveWithin (levels : Nat) {c : ContractId} {below : List Frame} {w : Work}
    (hlevels : levels = limit.toNat - (below.length + 1)) (hc : (w.store.contract c).resolved = false) :
    Plays d limit ⟨⟨c, .start⟩ :: below, w⟩ below (resolveWithin d limit levels c w) := by
  induction levels generalizing c below w with
  | zero =>
    rw [resolveWithin_eq]
    refine plays_resolveWith (fun f next dependency v _ heffect hmove => ?_) hc
    have hfull : limit ≤ below.length + 1 := by omega
    refine .fails .refl ?_
    rw [stepStack_of_effect heffect, hmove, applyMove, if_pos hfull]
    rfl
  | succ levels ih =>
    rw [resolveWithin_eq]
    refine plays_resolveWith (fun f next dependency v hv heffect hmove => ?_) hc
    have hroom : ¬limit ≤ below.length + 1 := by omega
    have hstep : stepStack d limit f below v
        = .ok (⟨dependency, .start⟩ :: { f with phase := next } :: below) v := by
      rw [stepStack_of_effect heffect, hmove, applyMove, if_neg hroom]
      rfl
    refine plays_of_step (.mk hstep) (ih ?_ hv)
    rw [List.length_cons]
    omega

-- What the resolution of an unresolved contract gives can be worked out by recursion.
theorem resolve_eq_resolveWithin {c : ContractId} {w : Work} (hc : (w.store.contract c).resolved = false) :
    resolve d limit c w = resolveWithin d limit (limit.toNat - 1) c w :=
  plays_unique (plays_resolve d limit c w) (plays_resolveWithin (limit.toNat - 1) rfl hc)

/-- Resolution with a stack is resolution by recursion: from the same work, with the same ceiling, both leave the same
store, the same warnings and the same records, or fail in the same way. -/
theorem resolve_eq_resolveRecursively (d : Directory) (limit : Int) (c : ContractId) :
    resolve d limit c = resolveRecursively d limit c := by
  funext w
  cases hc : (w.store.contract c).resolved with
  | true =>
    have hrec : resolveRecursively d limit c w = .ok () w := by
      change (if (w.store.contract c).resolved then (pure () : Action Unit) else _) w = _
      rw [if_pos hc]
      rfl
    rw [hrec, resolve, if_pos hc]
  | false =>
    have hrec : resolveRecursively d limit c w = resolveWithin d limit (limit.toNat - 1) c w := by
      change (if (w.store.contract c).resolved then (pure () : Action Unit) else _) w = _
      rw [hc]
      rfl
    rw [hrec]
    exact plays_unique (plays_resolve d limit c w) (plays_resolveWithin (limit.toNat - 1) rfl hc)

end CallContract.Resolution
