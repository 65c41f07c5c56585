import CallContract.Resolution.Machine
import Mathlib.Logic.Relation

/-!
# Run — the steps of the machine one after the other

A configuration is a stack with the work done so far.  Steps lead from one configuration to the next, and each
configuration has at most one next one.  Main statement: from its first configuration the machine comes to an end in
finitely many steps, and what it ends with is what resolution gives.
-/

namespace CallContract.Resolution

open Relation

/-- A stack and the work done so far. -/
structure Config where
  stack : List Frame
  work : Work

/-- One step that does not fail. -/
inductive Step (d : Directory) (limit : Int) : Config → Config → Prop
  | mk {top : Frame} {below stack : List Frame} {w w' : Work} (h : stepStack d limit top below w = .ok stack w') :
    Step d limit ⟨top :: below, w⟩ ⟨stack, w'⟩

/-- Finitely many steps. -/
abbrev Reaches (d : Directory) (limit : Int) : Config → Config → Prop := ReflTransGen (Step d limit)

/-- The machine gets from a configuration to a stack with a result: it reaches the stack with the work of the result,
or it reaches a configuration whose next step fails as the result says. -/
inductive Plays (d : Directory) (limit : Int) (x : Config) (stack : List Frame) :
    EStateM.Result Abort Work Unit → Prop
  | finishes {w : Work} (h : Reaches d limit x ⟨stack, w⟩) : Plays d limit x stack (.ok () w)
  | fails {top : Frame} {below : List Frame} {v w : Work} {abort : Abort} (h : Reaches d limit x ⟨top :: below, v⟩)
    (hf : stepStack d limit top below v = .error abort w) : Plays d limit x stack (.error abort w)

variable {d : Directory} {limit : Int}

/-! ## 1. Steps are determined -/

theorem step_right_unique : Relator.RightUnique (Step d limit) := by
  intro x y z hy hz
  cases hy with
  | mk hy =>
    cases hz with
    | mk hz =>
      rw [hy] at hz
      cases hz
      rfl

theorem not_step_nil {w : Work} {y : Config} : ¬Step d limit ⟨[], w⟩ y := nofun

theorem not_step_of_error {top : Frame} {below : List Frame} {v w : Work} {abort : Abort} {y : Config}
    (hf : stepStack d limit top below v = .error abort w) : ¬Step d limit ⟨top :: below, v⟩ y := by
  intro h
  cases h with
  | mk h => rw [hf] at h; cases h

-- Two configurations from which no step leads, reached from the same one, are the same.
theorem eq_of_reaches {x y z : Config} (hy : Reaches d limit x y) (hz : Reaches d limit x z)
    (hey : ∀ u, ¬Step d limit y u) (hez : ∀ u, ¬Step d limit z u) : y = z := by
  rcases ReflTransGen.total_of_right_unique step_right_unique hy hz with h | h
  · rcases ReflTransGen.cases_head h with h | ⟨u, hu, _⟩
    · exact h
    · exact absurd hu (hey u)
  · rcases ReflTransGen.cases_head h with h | ⟨u, hu, _⟩
    · exact h.symm
    · exact absurd hu (hez u)

/-- The machine empties its stack with at most one result. -/
theorem plays_unique {x : Config} {a b : EStateM.Result Abort Work Unit} (ha : Plays d limit x [] a)
    (hb : Plays d limit x [] b) : a = b := by
  cases ha with
  | finishes ha =>
    cases hb with
    | finishes hb =>
      cases eq_of_reaches ha hb (fun _ => not_step_nil) fun _ => not_step_nil
      rfl
    | fails hb hf =>
      cases eq_of_reaches ha hb (fun _ => not_step_nil) fun _ => not_step_of_error hf
  | fails ha hf =>
    cases hb with
    | finishes hb => cases eq_of_reaches ha hb (fun _ => not_step_of_error hf) fun _ => not_step_nil
    | fails hb hg =>
      cases eq_of_reaches ha hb (fun _ => not_step_of_error hf) fun _ => not_step_of_error hg
      rw [hf] at hg
      cases hg
      rfl

/-! ## 2. Composing runs -/

theorem plays_of_reaches {x y : Config} {stack : List Frame} {a : EStateM.Result Abort Work Unit}
    (h : Reaches d limit x y) (ha : Plays d limit y stack a) : Plays d limit x stack a := by
  cases ha with
  | finishes ha => exact .finishes (h.trans ha)
  | fails ha hf => exact .fails (h.trans ha) hf

theorem plays_of_step {x y : Config} {stack : List Frame} {a : EStateM.Result Abort Work Unit}
    (h : Step d limit x y) (ha : Plays d limit y stack a) : Plays d limit x stack a :=
  plays_of_reaches (ReflTransGen.single h) ha

-- One action after another: the machine plays the first down to one stack and the second from there on.
theorem plays_bind {x : Config} {middle stack : List Frame} {a b : Action Unit} {w : Work}
    (ha : Plays d limit x middle (a w)) (hb : ∀ v, a w = .ok () v → Plays d limit ⟨middle, v⟩ stack (b v)) :
    Plays d limit x stack ((a >>= fun _ => b) w) := by
  change Plays d limit x stack (EStateM.bind a (fun _ => b) w)
  rw [EStateM.bind]
  cases h : a w with
  | ok _ v =>
    rw [h] at ha
    cases ha with
    | finishes hr => exact plays_of_reaches hr (hb v h)
  | error abort v =>
    rw [h] at ha
    cases ha with
    | fails hr hf => exact .fails hr hf

/-! ## 3. Single steps -/

theorem stepStack_of_effect {top : Frame} {below : List Frame} {w w' : Work}
    (h : effect d w.store top w = .ok () w') :
    stepStack d limit top below w = applyMove limit top below (move d w.store top) w' := by
  rw [stepStack_eq, EStateM.bind, h]

theorem stepStack_of_effect_error {top : Frame} {below : List Frame} {w w' : Work} {abort : Abort}
    (h : effect d w.store top w = .error abort w') : stepStack d limit top below w = .error abort w' := by
  rw [stepStack_eq, EStateM.bind, h]

/-- The stack after a step, by the move of its topmost frame. -/
inductive NextStack (d : Directory) (limit : Int) (s : Store) (top : Frame) (below : List Frame) : List Frame → Prop
  | stay {phase : Phase} (hmove : move d s top = .stay phase) :
      NextStack d limit s top below ({ top with phase } :: below)
  | leave (hmove : move d s top = .leave) : NextStack d limit s top below below
  | call {e : ContractId} {phase : Phase} (hmove : move d s top = .call e phase) (hroom : ¬limit ≤ below.length + 1) :
      NextStack d limit s top below (⟨e, .start⟩ :: { top with phase } :: below)

-- All that a step does is the work of its topmost frame, and the move.
theorem effect_of_stepStack {top : Frame} {below stack : List Frame} {w w' : Work}
    (h : stepStack d limit top below w = .ok stack w') :
    effect d w.store top w = .ok () w' ∧ NextStack d limit w.store top below stack := by
  cases heffect : effect d w.store top w with
  | error abort v =>
    rw [stepStack_of_effect_error heffect] at h
    cases h
  | ok _ v =>
    rw [stepStack_of_effect heffect] at h
    cases hmove : move d w.store top with
    | stay phase =>
      rw [hmove] at h
      cases h
      exact ⟨rfl, .stay hmove⟩
    | leave =>
      rw [hmove] at h
      cases h
      exact ⟨rfl, .leave hmove⟩
    | call e phase =>
      rw [hmove, applyMove] at h
      split at h
      · cases h
      · next hroom =>
        cases h
        exact ⟨rfl, .call hmove hroom⟩

-- A step is refused in the work of its frame, or after it, when a contract is called and the stack is full.
theorem effect_of_stepStack_error {top : Frame} {below : List Frame} {w w' : Work} {abort : Abort}
    (h : stepStack d limit top below w = .error abort w') :
    effect d w.store top w = .error abort w' ∨
      effect d w.store top w = .ok () w' ∧ limit ≤ below.length + 1 ∧ ∃ e phase, move d w.store top = .call e phase ∧
        abort = .tooDeep (w'.store.contract e).name limit := by
  cases heffect : effect d w.store top w with
  | error abort' v =>
    rw [stepStack_of_effect_error heffect] at h
    cases h
    exact .inl rfl
  | ok _ v =>
    rw [stepStack_of_effect heffect] at h
    cases hmove : move d w.store top with
    | stay phase =>
      rw [hmove] at h
      cases h
    | leave =>
      rw [hmove] at h
      cases h
    | call e phase =>
      rw [hmove, applyMove] at h
      split at h
      · next hfull =>
        cases h
        exact .inr ⟨rfl, hfull, e, phase, rfl, rfl⟩
      · cases h

-- A step that neither calls a contract nor leaves one.
theorem step_of_stay {top : Frame} {next : Phase} {below : List Frame} {w w' : Work}
    (heffect : effect d w.store top w = .ok () w') (hmove : move d w.store top = .stay next) :
    Step d limit ⟨top :: below, w⟩ ⟨{ top with phase := next } :: below, w'⟩ := by
  refine .mk ?_
  rw [stepStack_of_effect heffect, hmove]
  rfl

theorem callIfNeeded_of_resolved {s : Store} {dependency : ContractId} (phase : Phase)
    (h : (s.contract dependency).resolved = true) : callIfNeeded s dependency phase = .stay phase := by
  rw [callIfNeeded, if_pos h]

theorem callIfNeeded_of_unresolved {s : Store} {dependency : ContractId} (phase : Phase)
    (h : (s.contract dependency).resolved = false) : callIfNeeded s dependency phase = .call dependency phase := by
  rw [callIfNeeded, h]
  rfl

-- Where a frame goes that has not started.
theorem move_start (d : Directory) (s : Store) (c : ContractId) :
    move d s ⟨c, .start⟩ = if (s.contract c).resolved then .leave
      else match predecessor? s c with
        | some p => callIfNeeded s p .expand
        | none => .stay .expand := rfl

-- Where a frame goes that follows a reference.
theorem move_follow (d : Directory) (s : Store) (c : ContractId) (ref : Reference) (refs : List Reference) :
    move d s ⟨c, .follow (ref :: refs)⟩ = match target d s c ref with
      | .predecessor p => .stay (.mergeThen p ref refs)
      | .missing => .stay (.follow refs)
      | .found i => callIfNeeded s i (.mergeThen i ref refs) := rfl

theorem effect_follow (d : Directory) (s : Store) (c : ContractId) (ref : Reference) (refs : List Reference) :
    effect d s ⟨c, .follow (ref :: refs)⟩ = match target d s c ref with
      | .missing => modify fun w => w.warn (.missingInterface (w.store.contract c).name ref.serviceName)
      | _ => pure () := rfl

-- A frame that calls a dependency does nothing else.
theorem effect_of_call {s : Store} {f : Frame} {e : ContractId} {phase : Phase} (h : move d s f = .call e phase) :
    effect d s f = pure () := by
  obtain ⟨i, phase⟩ := f
  cases phase with
  | start => rfl
  | expand => cases h
  | follow refs =>
    cases refs with
    | nil => cases h
    | cons ref refs =>
      rw [move_follow] at h
      rw [effect_follow]
      cases htarget : target d s i ref with
      | missing =>
        rw [htarget] at h
        cases h
      | predecessor _ => rfl
      | found _ => rfl
  | mergeThen _ _ _ => cases h

/-! ## 4. Resolution is a run -/

theorem plays_runStack {bound : Nat} {stack : List Frame} {w : Work} (hw : Fits bound d w) :
    Plays d limit ⟨stack, w⟩ [] (runStack d limit bound stack w hw) := by
  induction h : potential bound limit.toNat stack using Nat.strongRecOn generalizing stack w with
  | _ n ih =>
    cases stack with
    | nil =>
      rw [runStack]
      exact .finishes .refl
    | cons top below =>
      rw [runStack]
      split
      · next stack w' hstep =>
        have hlt := stepStack_potential hw hstep
        exact plays_of_step (.mk hstep) (ih _ (h ▸ hlt) (stepStack_fits hw hstep) rfl)
      · next abort w' hstep => exact .fails .refl hstep

-- A contract that is resolved leaves the stack at once.
theorem stepStack_start_of_resolved {c : ContractId} {below : List Frame} {w : Work}
    (h : (w.store.contract c).resolved = true) : stepStack d limit ⟨c, .start⟩ below w = .ok below w := by
  have hmove : move d w.store ⟨c, .start⟩ = .leave := by rw [move_start, if_pos h]
  rw [stepStack_eq, hmove]
  rfl

/-- The machine, started with one contract, comes to an end with what resolution gives. -/
theorem plays_resolve (d : Directory) (limit : Int) (c : ContractId) (w : Work) :
    Plays d limit ⟨[⟨c, .start⟩], w⟩ [] (resolve d limit c w) := by
  rw [resolve]
  by_cases h : (w.store.contract c).resolved = true
  · rw [if_pos h]
    exact .finishes (.single (.mk (stepStack_start_of_resolved h)))
  · rw [if_neg h]
    exact plays_runStack (fits_widest d w)

end CallContract.Resolution
